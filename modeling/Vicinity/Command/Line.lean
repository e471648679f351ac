import Vicinity.Command.Scan

/-!
Command lines: flags shared by all commands, then one command with flags of its own. A shared flag
may stand before the command or after it, and counts more there.
-/

namespace Vicinity

/-- What a command line asks for. -/
inductive Command where
  | build (input output : String) (space : Option String) (efConstruction m threads : Option Nat)
  | query (index : String) (space : Option String) (vector : List Single) (k : Int)
      (efSearch : Option Nat) (asJson : Bool)
  | info (index : String)
  | config

end Vicinity

namespace Vicinity.Command

/-- A whole command line. -/
structure CommandLine where
  config : Option String
  logLevel : Option String
  backend : Option String
  command : Command

/-- The commands by name, apart from the one that shows help. -/
def commandNames : List String := ["build", "query", "info", "config"]

def rootFlags : List Flag := Flag.shared ++ [Flag.version]

def flagsOf (command : String) : List Flag :=
  Flag.shared ++
    if command = "build" then
      [.input, .output, .space, .efConstruction, .m, .threads]
    else if command = "query" then [.index, .space, .vector, .k, .efSearch, .json]
    else if command = "info" then [.index]
    else []

namespace Scan

def text? (s : Scan) (name : FlagName) : Option String :=
  match s.found.lookup name with
  | some (.text t) => some t
  | _ => none

def word? (s : Scan) (name : FlagName) : Option Nat :=
  match s.found.lookup name with
  | some (.word n) => some n
  | _ => none

def integer? (s : Scan) (name : FlagName) : Option Int :=
  match s.found.lookup name with
  | some (.integer i) => some i
  | _ => none

/-- The numbers given to a flag, joined where it was given more than once. -/
def numbers (s : Scan) (name : FlagName) : List Single :=
  s.found.flatMap fun e =>
    match e with
    | (n, .numbers xs) => if n = name then xs else []
    | _ => []

def has (s : Scan) (name : FlagName) : Bool := s.found.any fun e => e.1 == name

/-- The text given to a flag that may not be left out. -/
def required (s : Scan) (name : FlagName) : Except UsageError String :=
  match s.text? name with
  | some t => .ok t
  | none => .error .missingArgument

end Scan

/-- The number of neighbours where none is given. -/
def standardCount : Int := 10

/-- The command that the flags after its name make. -/
def commandOf (name : String) (s : Scan) : Except UsageError Command :=
  if name = "build" then do
    let input ← s.required .input
    let output ← s.required .output
    return .build input output (s.text? .space) (s.word? .efConstruction) (s.word? .m)
      (s.word? .threads)
  else if name = "query" then do
    let index ← s.required .index
    if s.has .vector then
      return .query index (s.text? .space) (s.numbers .vector) ((s.integer? .k).getD standardCount)
        (s.word? .efSearch) (s.has .json)
    else throw .missingArgument
  else if name = "info" then do
    let index ← s.required .index
    return .info index
  else return .config

/-- What the command for help answers: help on one command or on all. -/
def helpOn : List String → UsageError
  | [] => .helpWanted
  | name :: rest =>
    if (commandNames ++ ["help"]).contains name ∧ rest.isEmpty then .helpWanted
    else .unknownCommand

/-- Reads a command line. What stands after the command is read before a flag that waits for its
value in front of it. -/
def CommandLine.ofArguments (args : List String) : Except UsageError CommandLine := do
  let (root, found) ← scanToCommand rootFlags (commandNames ++ ["help"]) args Scan.start
  match found with
  | none =>
    let root ← root.settle
    throw (if root.found.isEmpty then .nothingGiven else .missingCommand)
  | some (name, rest) =>
    if name = "help" then throw (helpOn rest)
    else
      let inner ← scanFlags (flagsOf name) rest Scan.start
      let command ← commandOf name inner
      let root ← root.settle
      let shared (flag : FlagName) : Option String := inner.text? flag <|> root.text? flag
      return ⟨shared .config, shared .logLevel, shared .backend, command⟩

end Vicinity.Command
