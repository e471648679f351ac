import Vicinity.Command.Run

/-!
The program. It reads the files that a command line mentions, runs the command on them, and writes
back what has changed.
-/

namespace Vicinity.Program

open Vicinity.Command

/-- What stands on disk at a location: the text of a file, or a directory where there is something
that has no text. -/
def probe (l : Location) : IO (Option FileNode) := do
  try
    return some (.text (← IO.FS.readFile ("/" ++ "/".intercalate l)))
  catch
    | .noFileOrDirectory .. => return none
    | _ => return some .directory

/-- Adds what stands on disk along some components. -/
def importAlong (fs : Files) (l : Location) : List String → IO Files
  | [] => return fs
  | c :: rest => do
    let next :=
      if c = "" ∨ c = "." then l else if c = ".." then l.dropLast else l ++ [c]
    if next.isEmpty then importAlong fs next rest
    else
      match ← probe next with
      | none => return fs
      | some n => importAlong (fs.put next n) next rest

def importPath (fs : Files) (path : String) : IO Files :=
  importAlong fs (if path.startsWith "/" then [] else fs.workingDirectory) (Files.components path)

/-- The files that a name of a configuration file may stand for. -/
def configurationPaths (name : String) : List String :=
  name :: Config.extensions.map fun (x, _) => name ++ "." ++ x

def indexPaths (path : String) : List String :=
  [path, Manifest.pathFor path, DenseIndex.idsPath path]

def mentioned (line : CommandLine) (environment : List (String × String)) : List String :=
  configurationPaths (Settings.defaultFile environment) ++
    (line.config.map configurationPaths).getD [] ++
    match line.command with
    | .build input output .. => input :: indexPaths output
    | .query index .. => indexPaths index
    | .info index => indexPaths index
    | .config => []

/-- Writes the files that are new or have changed. -/
def writeChanges (before after : Files) : IO Unit :=
  after.nodes.forM fun (l, n) => do
    match n with
    | .text content =>
      if before.node? l ≠ some n then IO.FS.writeFile ("/" ++ "/".intercalate l) content
    | .directory => return

/-- The environment variables that give settings or say where they are. -/
def readEnvironment : IO (List (String × String)) := do
  let start := Settings.environmentMark.toUpper
  let names := ["HOME", "XDG_CONFIG_HOME"] ++ Settings.names.flatMap fun n =>
    [start ++ n.toUpper, Settings.environmentMark ++ n]
  names.filterMapM fun n => do
    return (← IO.getEnv n).map fun v => (n, v)

/-- The time in milliseconds since the start of 1970, as a new file has it. -/
def readClock : IO Int := do
  let (_, path) ← IO.FS.createTempFile
  let time := (← path.metadata).modified
  IO.FS.removeFile path
  return time.sec * 1000 + time.nsec.toNat / 1000000

def usage : String :=
  "Build nearest-neighbour indexes from JSON vectors and query them\n\n" ++
  "  build -i INPUT -o OUTPUT [-s SPACE] [--ef-construction N] [--m N] [--threads N]\n" ++
  "  query -i INDEX --vector X,Y,... [-s SPACE] [-k N] [--ef-search N] [--json]\n" ++
  "  info -i INDEX\n" ++
  "  config\n\n" ++
  "Everywhere: [-c CONFIG] [-l LEVEL] [-b BACKEND]\n"

/-- What is said about a command line that is refused. -/
def complaint : UsageError → String
  | .unknownCommand => "unknown command"
  | .missingCommand => "no command given"
  | .unknownArgument => "unknown argument"
  | .missingArgument => "a required argument is missing"
  | .repeatedArgument => "an argument is given more than once"
  | .missingValue => "an argument lacks its value"
  | .malformedValue => "an argument has a malformed value"
  | .unexpectedValue => "an argument takes no value"
  | _ => "no arguments given"

def runOnDisk (line : CommandLine) : IO UInt32 := do
  let environment ← readEnvironment
  let directory := Files.components (← IO.currentDir).toString
  let start := Files.fresh (directory.filter (· ≠ ""))
  let files ← (mentioned line environment).foldlM importPath start
  let (result, world) := run line environment ⟨files, ← readClock, []⟩
  writeChanges files world.files
  match result with
  | .ok text =>
    IO.print text
    return 0
  | .error failure =>
    IO.eprintln ("Error: " ++ "\n\nCaused by:\n    ".intercalate failure.messages)
    return 1

end Vicinity.Program

def main (args : List String) : IO UInt32 := do
  match Vicinity.Command.CommandLine.ofArguments args with
  | .ok line => Vicinity.Program.runOnDisk line
  | .error .helpWanted =>
    IO.print Vicinity.Program.usage
    return 0
  | .error .versionWanted =>
    IO.println "vicinity 0.3.0"
    return 0
  | .error e =>
    IO.eprintln ("error: " ++ Vicinity.Program.complaint e ++ "\n\n" ++ Vicinity.Program.usage)
    return 2
