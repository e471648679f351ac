import Vicinity.Command.Flag

/-!
Reading the flags of a command line from left to right. A value may be joined to its flag or
follow as the next argument. In the second case the flag waits, and its value is looked at only
when the next flag starts or the arguments end; so an unknown argument in between is what is
reported.
-/

namespace Vicinity.Command

/-- What has been read so far: the values found; the flag whose value has not been looked at,
with the value if it has come; and whether only plain arguments may follow. -/
structure Scan where
  found : List (FlagName × FlagValue)
  waiting : Option (Flag × Option String)
  plainOnly : Bool

namespace Scan

def start : Scan := ⟨[], none, false⟩

/-- The flag whose value is the next argument. -/
def open? (s : Scan) : Option Flag :=
  match s.waiting with
  | some (f, none) => some f
  | _ => none

/-- Whether the next argument is a value even if it starts with a hyphen. -/
def takesAnything (s : Scan) : Bool :=
  match s.open? with
  | some f => f.takesHyphens
  | none => false

def accept (s : Scan) (f : Flag) (raw : String) : Except UsageError Scan :=
  if ¬ f.repeats ∧ (s.found.any fun e => e.1 == f.name) then .error .repeatedArgument
  else (f.readValue raw).map fun v => { s with found := s.found ++ [(f.name, v)] }

def settle (s : Scan) : Except UsageError Scan :=
  match s.waiting with
  | none => .ok s
  | some (_, none) => .error .missingValue
  | some (f, some raw) => { s with waiting := none }.accept f raw

/-- Starts a flag that takes a value; `joined` is the value if it is joined to the flag. -/
def startFlag (s : Scan) (f : Flag) (joined : Option String) : Except UsageError Scan := do
  let s ← s.settle
  match joined with
  | some raw => s.accept f raw
  | none => return { s with waiting := some (f, none) }

def startSwitch (s : Scan) (f : Flag) : Except UsageError Scan := do
  let s ← s.settle
  match f.kind with
  | .help => .error .helpWanted
  | .version => .error .versionWanted
  | _ => s.accept f ""

def long (flags : List Flag) (s : Scan) (name : List Char) (joined : Option String) :
    Except UsageError Scan :=
  match flags.find? fun f => f.long == some (String.ofList name) with
  | none => .error .unknownArgument
  | some f =>
    if f.takesValue then s.startFlag f joined
    else if joined.isSome then .error .unexpectedValue
    else s.startSwitch f

/-- Takes in the flags whose short names stand in one argument. The first of them that takes a
value has the rest of the argument for it, without an equals sign at its front. -/
def short (flags : List Flag) : Scan → List Char → Except UsageError Scan
  | s, [] => .ok s
  | s, c :: rest =>
    match flags.find? fun f => f.short == some c with
    | none => .error .unknownArgument
    | some f =>
      if f.takesValue then
        match rest with
        | [] => s.startFlag f none
        | '=' :: raw => s.startFlag f (some (String.ofList raw))
        | raw => s.startFlag f (some (String.ofList raw))
      else
        match s.startSwitch f with
        | .error e => .error e
        | .ok s => short flags s rest

/-- What one argument is to the reading of flags. -/
inductive Reading where
  | next (s : Scan)
  | plain

/-- Takes in one argument where flags may stand. -/
def argument (flags : List Flag) (s : Scan) (arg : String) : Except UsageError Reading :=
  let value : Reading := match s.open? with
    | some f => .next { s with waiting := some (f, some arg) }
    | none => .plain
  if s.takesAnything then .ok value
  else
    match arg.toList with
    | ['-', '-'] => .ok (.next { s with plainOnly := true })
    | '-' :: '-' :: cs =>
      let name := cs.takeWhile (· ≠ '=')
      let joined := match cs.drop name.length with
        | [] => none
        | _ :: raw => some (String.ofList raw)
      (s.long flags name joined).map .next
    | '-' :: c :: cs => (s.short flags (c :: cs)).map .next
    | _ => .ok value

end Scan

/-- Reads arguments that are flags and their values only. -/
def scanFlags (flags : List Flag) : List String → Scan → Except UsageError Scan
  | [], s => s.settle
  | arg :: rest, s =>
    if s.plainOnly then .error .unknownArgument
    else
      match s.argument flags arg with
      | .error e => .error e
      | .ok .plain => .error .unknownArgument
      | .ok (.next s) => scanFlags flags rest s

/-- Reads arguments up to a command. Gives what was read, and the command with the arguments after
it. -/
def scanToCommand (flags : List Flag) (commands : List String) :
    List String → Scan → Except UsageError (Scan × Option (String × List String))
  | [], s => .ok (s, none)
  | arg :: rest, s =>
    let isCommand : Bool := commands.contains arg
    if s.plainOnly then .error (if isCommand then .unknownArgument else .unknownCommand)
    else if s.open?.isNone ∧ isCommand then .ok (s, some (arg, rest))
    else
      match s.argument flags arg with
      | .error e => .error e
      | .ok .plain => .error .unknownCommand
      | .ok (.next s) => scanToCommand flags commands rest s

end Vicinity.Command
