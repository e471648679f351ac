import Vicinity.Number.Literal

/-!
The flags that commands know, and the values that flags take.
-/

namespace Vicinity.Command

/-- Why a command line is refused, or what it asks for instead of a command. -/
inductive UsageError where
  | nothingGiven
  | helpWanted
  | versionWanted
  | unknownCommand
  | missingCommand
  | unknownArgument
  | missingArgument
  | repeatedArgument
  | missingValue
  | malformedValue
  | unexpectedValue
  deriving DecidableEq, Repr

/-- A flag by what it is for. -/
inductive FlagName where
  | config
  | logLevel
  | backend
  | input
  | output
  | space
  | efConstruction
  | m
  | threads
  | index
  | vector
  | k
  | efSearch
  | json
  | help
  | version
  deriving DecidableEq, Repr

/-- What a flag takes: any text, a path, an unsigned word, a signed half word, numbers between
commas, or nothing. Help and version end the reading of the command line. -/
inductive FlagKind where
  | text
  | path
  | word
  | halfWord
  | numbers
  | switch
  | help
  | version
  deriving DecidableEq, Repr

/-- A flag with its spellings. -/
structure Flag where
  name : FlagName
  short : Option Char
  long : Option String
  kind : FlagKind

/-- A value that was read. -/
inductive FlagValue where
  | text (s : String)
  | word (n : Nat)
  | integer (i : Int)
  | numbers (xs : List Single)
  | on

namespace Flag

def takesValue (f : Flag) : Bool :=
  match f.kind with
  | .switch | .help | .version => false
  | _ => true

/-- Whether the value of a flag may start with a hyphen. -/
def takesHyphens (f : Flag) : Bool := f.kind == .numbers

/-- Whether a flag may be given more than once; the values are then joined. -/
def repeats (f : Flag) : Bool := f.kind == .numbers

def splitCommas : List Char → List (List Char)
  | [] => [[]]
  | c :: rest =>
    if c = ',' then [] :: splitCommas rest
    else
      match splitCommas rest with
      | [] => [[c]]
      | piece :: pieces => (c :: piece) :: pieces

/-- A value, or the error that it is malformed. -/
def wellFormed : Option α → Except UsageError α
  | some a => .ok a
  | none => .error .malformedValue

def readValue (f : Flag) (raw : String) : Except UsageError FlagValue :=
  match f.kind with
  | .text => .ok (.text raw)
  | .path => if raw.isEmpty then .error .missingValue else .ok (.text raw)
  | .word => (wellFormed (Number.word? raw)).map .word
  | .halfWord => (wellFormed (Number.signed? 32 raw)).map .integer
  | .numbers =>
    (wellFormed ((splitCommas raw.toList).mapM fun piece =>
      Number.single? (String.ofList piece))).map .numbers
  | _ => .ok .on

/-! The flags -/

def config : Flag := ⟨.config, some 'c', some "config", .text⟩

def logLevel : Flag := ⟨.logLevel, some 'l', some "log-level", .text⟩

def backend : Flag := ⟨.backend, some 'b', some "backend", .text⟩

def help : Flag := ⟨.help, some 'h', some "help", .help⟩

def version : Flag := ⟨.version, some 'V', some "version", .version⟩

def input : Flag := ⟨.input, some 'i', some "input", .path⟩

def output : Flag := ⟨.output, some 'o', some "output", .path⟩

def space : Flag := ⟨.space, some 's', some "space", .text⟩

def efConstruction : Flag := ⟨.efConstruction, none, some "ef-construction", .word⟩

def m : Flag := ⟨.m, none, some "m", .word⟩

def threads : Flag := ⟨.threads, none, some "threads", .word⟩

def index : Flag := ⟨.index, some 'i', some "index", .path⟩

/-- Gives the vector whose neighbours are sought. -/
def vector : Flag := ⟨.vector, none, some "vector", .numbers⟩

def k : Flag := ⟨.k, some 'k', none, .halfWord⟩

def efSearch : Flag := ⟨.efSearch, none, some "ef-search", .word⟩

def json : Flag := ⟨.json, none, some "json", .switch⟩

/-- The flags that stand before a command or after it. -/
def shared : List Flag := [config, logLevel, backend, help]

end Flag

end Vicinity.Command
