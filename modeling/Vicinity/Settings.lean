import Vicinity.Config.Sources
import Vicinity.Host.Params
import Vicinity.Index.Builtin
import Vicinity.Toml.Strings

/-!
The settings of the command line: what holds where a command says nothing else. They come from
defaults, configuration files and environment variables, in this order, and can be shown as TOML.
-/

namespace Vicinity

open Json (Term)

/-- What commands use unless told otherwise. -/
structure Settings where
  logLevel : String
  backend : BackendKind
  spaceType : String
  efConstruction : Option Nat
  m : Option Nat
  threadCount : Option Nat
  efSearch : Option Nat
  deriving DecidableEq, Repr

/-- Why settings are refused. -/
inductive SettingsFault where
  | space (cause : Error)
  | notPositive (name : String)
  deriving DecidableEq, Repr

def SettingsFault.message : SettingsFault → String
  | space cause => cause.message
  | notPositive name => (BadArgument.notPositive name).message

/-- Why settings could not be had. -/
inductive SettingsError where
  | unreadable
  | unusable
  deriving DecidableEq, Repr

namespace Settings

def standard : Settings :=
  { logLevel := "info", backend := BackendKind.standard, spaceType := Space.standard.name,
    efConstruction := none, m := none, threadCount := none, efSearch := none }

def names : List String :=
  ["log_level", "backend", "space_type", "ef_construction", "m", "index_thread_qty", "ef_search"]

/-- The settings that are counts, with their names. -/
def counts (s : Settings) : List (String × Option Nat) :=
  [("ef_construction", s.efConstruction), ("m", s.m), ("index_thread_qty", s.threadCount),
    ("ef_search", s.efSearch)]

/-- The members for the counts that are present. -/
def countMembers (s : Settings) : List (String × Json.Value) :=
  s.counts.flatMap fun (name, value) => BuildParams.optionalMember name value

/-- The JSON form; absent settings are left out. -/
def toJson (s : Settings) : Json.Value :=
  .object ([("log_level", .string s.logLevel), ("backend", s.backend.toJson),
    ("space_type", .string s.spaceType)] ++ s.countMembers)

def ofTerm? (t : Term) : Option Settings := do
  let fs ← t.fields? names
  let logLevel ← fs.withDefault 0 standard.logLevel Term.text?
  let backend ← fs.withDefault 1 standard.backend BackendKind.ofTerm?
  let spaceType ← fs.withDefault 2 standard.spaceType Term.text?
  let efConstruction ← fs.withDefault 3 none (Term.optional? Term.word?)
  let m ← fs.withDefault 4 none (Term.optional? Term.word?)
  let threadCount ← fs.withDefault 5 none (Term.optional? Term.word?)
  let efSearch ← fs.withDefault 6 none (Term.optional? Term.word?)
  return ⟨logLevel, backend, spaceType, efConstruction, m, threadCount, efSearch⟩

/-- Refuses an unknown space, or else the first count that is zero. -/
def validate (s : Settings) : Except SettingsFault Unit :=
  match Space.ofName s.spaceType with
  | .error e => .error (.space e)
  | .ok _ =>
    match s.counts.find? fun c => c.2 == some 0 with
    | some (name, _) => .error (.notPositive name)
    | none => .ok ()

/-- The build map in which a host is told these settings. -/
def buildMap (s : Settings) : Json.Value :=
  .object (BuildParams.optionalMember ParamName.threadCount s.threadCount ++
    [(Host.parametersKey,
      .object (BuildParams.optionalMember ParamName.m s.m ++
        BuildParams.optionalMember ParamName.efConstruction s.efConstruction)),
    (Host.spaceTypeKey, .string s.spaceType)])

/-- The load map in which a host is told these settings. -/
def loadMap (s : Settings) : Json.Value :=
  .object (BuildParams.optionalMember ParamName.efSearch s.efSearch ++
    [(Host.spaceTypeKey, .string s.spaceType)])

def textLine (name value : String) : String :=
  name ++ " = " ++ String.ofList (Toml.stringText value) ++ "\n"

/-- The lines of the counts that are present. A count beyond the integers of TOML has none. -/
def countLines : List (String × Option Nat) → Option String
  | [] => some ""
  | (_, none) :: rest => countLines rest
  | (name, some n) :: rest =>
    if Number.fitsSigned 64 n then
      (countLines rest).map fun lines => name ++ " = " ++ toString n ++ "\n" ++ lines
    else none

/-- The settings as a TOML document, if TOML can hold them. -/
def toToml? (s : Settings) : Option String :=
  (countLines s.counts).map fun lines =>
    textLine "log_level" s.logLevel ++ textLine "backend" s.backend.name ++
      textLine "space_type" s.spaceType ++ lines

/-! Configurations -/

/-- The configuration in which every setting has its default. -/
def defaults : List (String × Config.Value) :=
  [("log_level", .text standard.logLevel), ("backend", .text standard.backend.name),
    ("space_type", .text standard.spaceType)]

/-- A setting read from a configuration, which may leave it out. -/
def fromEntry (entries : List (String × Config.Value)) (name : String) (standard : α)
    (read : Config.Value → Option α) : Option α :=
  match entries.lookup name with
  | none => some standard
  | some v => read v

/-- The backend that a value names. The case of letters does not matter. -/
def backendOf (v : Config.Value) : Option BackendKind :=
  v.choice?.bind fun name => BackendKind.all.find? fun k => k.name == Text.foldCase name

def ofEntries? (entries : List (String × Config.Value)) : Option Settings := do
  let logLevel ← fromEntry entries "log_level" standard.logLevel Config.Value.text?
  let backend ← fromEntry entries "backend" standard.backend backendOf
  let spaceType ← fromEntry entries "space_type" standard.spaceType Config.Value.text?
  let efConstruction ← fromEntry entries "ef_construction" none Config.Value.optionalWord?
  let m ← fromEntry entries "m" none Config.Value.optionalWord?
  let threadCount ← fromEntry entries "index_thread_qty" none Config.Value.optionalWord?
  let efSearch ← fromEntry entries "ef_search" none Config.Value.optionalWord?
  return ⟨logLevel, backend, spaceType, efConstruction, m, threadCount, efSearch⟩

/-- The start of the names of environment variables that give settings. -/
def environmentMark : String := "knn_"

/-- The directory under a user's directory in which configuration files lie. -/
def directoryName : String := "knn-index"

/-- The directory in which configuration files lie: that of the environment, or the usual one
below the user's home. -/
def directory (environment : List (String × String)) : String :=
  let given := (environment.lookup "XDG_CONFIG_HOME").getD ""
  let home := (environment.lookup "HOME").getD ""
  if given.startsWith "/" then given ++ "/" ++ directoryName
  else if home.isEmpty then "."
  else home ++ "/.config/" ++ directoryName

/-- The name of the default configuration file, without its extension. -/
def defaultFile (environment : List (String × String)) : String :=
  directory environment ++ "/config"

/-- The settings that hold: defaults, then the default configuration file if there is one, then
the named one, then environment variables. -/
def load (fs : Files) (environment : List (String × String)) (file : Option String) :
    Except SettingsError Settings :=
  match Config.readFile fs (defaultFile environment) false with
  | none => .error .unreadable
  | some fromDefaultFile =>
    match file.map fun name => Config.readFile fs name true with
    | some none => .error .unreadable
    | fromFile =>
      let fromVariables := Config.ofEnvironment environmentMark environment
      match ofEntries? (Config.layered
          [defaults, fromDefaultFile, fromFile.join.getD [], fromVariables]) with
      | some s => .ok s
      | none => .error .unusable

end Settings

end Vicinity
