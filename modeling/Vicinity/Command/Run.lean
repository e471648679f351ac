import Vicinity.Command.Line
import Vicinity.Host.Operations
import Vicinity.Report
import Vicinity.Settings

/-!
Running commands. A command works on the files, prints a text, and may fail; a failure says what
was being done and why it did not succeed.
-/

namespace Vicinity.Command

/-- What was being done when a command failed. -/
inductive Task where
  | openInput (path : String)
  | parseInput (path : String)
  | buildIndex (path : String)
  | loadIndex (path : String)
  | readManifest (path : String)
  | readConfiguration
  | parseConfiguration
  | renderSettings
  deriving DecidableEq, Repr

def Task.message : Task → String
  | openInput path => s!"Failed to open {path}"
  | parseInput path => s!"Failed to parse records in {path}"
  | buildIndex path => s!"Failed to build index at {path}"
  | loadIndex path => s!"Failed to load index {path}"
  | readManifest path => s!"Failed to read manifest for {path}"
  | readConfiguration => "Failed to read configuration"
  | parseConfiguration => "Failed to parse configuration"
  | renderSettings => "Failed to render settings"

/-- Why a task failed. -/
inductive Cause where
  | file (e : FileError)
  | index (e : Error)
  | malformedRecords
  | configuration
  deriving DecidableEq, Repr

def Cause.message : Cause → String
  | file e => e.name
  | index e => e.message
  | malformedRecords => "malformed records"
  | configuration => "malformed configuration"

/-- Why a command failed. -/
inductive Failure where
  | during (task : Task) (cause : Cause)
  | index (e : Error)
  | settings (fault : SettingsFault)
  deriving DecidableEq, Repr

/-- The wording of a failure, from the task to the cause. -/
def Failure.messages : Failure → List String
  | during task cause => [task.message, cause.message]
  | index e => [e.message]
  | settings fault => [fault.message]

/-- Says what was being done where something failed. -/
def during (task : Task) (cause : ε → Cause) : Except ε α → Except Failure α
  | .ok a => .ok a
  | .error e => .error (.during task (cause e))

def readRecords (fs : Files) (path : String) : Except Failure (List VectorRecord) :=
  match fs.open? path with
  | .error e => .error (.during (.openInput path) (.file e))
  | .ok content =>
    match content.bind VectorRecord.listOfText? with
    | some records => .ok records
    | none => .error (.during (.parseInput path) .malformedRecords)

/-- Builds an index over the records of an input file. -/
def buildIndex (s : Settings) (input output : String) (w : World) :
    Except Failure Manifest × World :=
  match readRecords w.files input with
  | .error e => (.error e, w)
  | .ok records =>
    let (result, w) := Host.build s.backend.backend (records.map (·.id))
      (records.map (·.vector)) s.buildMap output w
    (during (.buildIndex output) .index result, w)

/-- Loads an index and asks it for the nearest neighbours of a vector. -/
def queryIndex (s : Settings) (path : String) (vector : RawVector) (k : Int) (w : World) :
    Except Failure (List Neighbor) × World :=
  match Host.load s.backend.backend path s.loadMap ⟨Host.HandleTable.empty, w⟩ with
  | (.error e, host) => (.error (.during (.loadIndex path) (.index e)), host.world)
  | (.ok handle, host) =>
    match Host.query host.handles handle vector k with
    | .error e => (.error (.index e), host.world)
    | .ok found => (.ok found, host.world)

def renderSettings (s : Settings) : Except Failure String :=
  match s.toToml? with
  | some text => .ok text
  | none => .error (.during .renderSettings .configuration)

def loadSettings (fs : Files) (environment : List (String × String)) (file : Option String) :
    Except Failure Settings :=
  match Settings.load fs environment file with
  | .ok s => .ok s
  | .error .unreadable => .error (.during .readConfiguration .configuration)
  | .error .unusable => .error (.during .parseConfiguration .configuration)

/-- The settings that a command line leaves to its command. -/
def settingsFor (line : CommandLine) (fs : Files) (environment : List (String × String)) :
    Except Failure Settings := do
  let s ← loadSettings fs environment line.config
  let s := { s with logLevel := line.logLevel.getD s.logLevel }
  match line.backend with
  | none => return s
  | some name =>
    match BackendKind.ofName name with
    | .error e => throw (.index e)
    | .ok k => return { s with backend := k }

def checkSettings (s : Settings) : Except Failure Unit :=
  match s.validate with
  | .ok () => .ok ()
  | .error fault => .error (.settings fault)

/-- What is printed about an index that was built. -/
def builtMessage (output : String) (m : Manifest) : String :=
  s!"Built {m.space.name} index at {output} ({m.vectorCount} vectors, dimension {m.dimension}, " ++
    s!"backend {m.backend})\n"

/-- What is printed about neighbours that were found. -/
def queryReport (spaceType : String) (asJson : Bool) (found : List Neighbor) :
    Except Failure String :=
  if asJson then .ok ((Json.Value.array (found.map Neighbor.toJson)).pretty ++ "\n")
  else
    match Space.ofName spaceType with
    | .ok space => .ok (Report.neighbors space found)
    | .error e => .error (.index e)

def runCommand (s : Settings) (w : World) : Command → Except Failure String × World
  | .build input output space efConstruction m threads =>
    let s := { s with
      spaceType := space.getD s.spaceType, efConstruction := efConstruction <|> s.efConstruction,
      m := m <|> s.m, threadCount := threads <|> s.threadCount }
    match checkSettings s with
    | .error e => (.error e, w)
    | .ok () =>
      let (result, w) := buildIndex s input output w
      (result.map (builtMessage output), w)
  | .query index space vector k efSearch asJson =>
    let s := { s with
      spaceType := space.getD s.spaceType, efSearch := efSearch <|> s.efSearch }
    match checkSettings s with
    | .error e => (.error e, w)
    | .ok () =>
      let (result, w) := queryIndex s index vector k w
      (result.bind (queryReport s.spaceType asJson), w)
  | .info index =>
    ((during (.readManifest index) .index (Manifest.read index w.files)).map Report.manifest, w)
  | .config => ((checkSettings s).bind fun _ => renderSettings s, w)

/-- Runs a command line. Gives the text to print, or why there is none. -/
def run (line : CommandLine) (environment : List (String × String)) (w : World) :
    Except Failure String × World :=
  match settingsFor line w.files environment with
  | .error e => (.error e, w)
  | .ok s => runCommand s w line.command

end Vicinity.Command
