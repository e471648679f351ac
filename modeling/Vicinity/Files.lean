import Vicinity.Error

/-!
The files that the program works on, as a value: directories and texts under one root, and a
working directory from which relative paths start. Paths are resolved one component after the
other, so every component but the last has to name a directory that exists.
-/

namespace Vicinity

/-- The components of an absolute path without `.` and `..`. -/
abbrev Location := List String

/-- What stands at a location. -/
inductive FileNode where
  | text (content : String)
  | directory
  deriving DecidableEq, Repr

/-- A tree of files. The root is a directory and is not listed. -/
structure Files where
  nodes : List (Location × FileNode)
  workingDirectory : Location
  deriving DecidableEq, Repr

namespace Files

/-- Nothing but the directories that lead to the working directory. -/
def fresh (workingDirectory : Location) : Files :=
  ⟨(List.range workingDirectory.length).map fun i => (workingDirectory.take (i + 1), .directory),
    workingDirectory⟩

def node? (fs : Files) (l : Location) : Option FileNode :=
  if l = [] then some .directory else fs.nodes.lookup l

/-- Puts something at a location in place of what was there. -/
def put (fs : Files) (l : Location) (n : FileNode) : Files :=
  { fs with nodes := (l, n) :: fs.nodes.filter fun e => e.1 != l }

/-- Takes away what stands at a location and below it. -/
def drop (fs : Files) (l : Location) : Files :=
  { fs with nodes := fs.nodes.filter fun e => !l.isPrefixOf e.1 }

/-- The longest name of one component, in bytes. -/
def maxNameBytes : Nat := 255

/-- Goes from a location, which has to be a directory, along one component. -/
def step (fs : Files) (l : Location) (component : String) : Except FileError Location :=
  match fs.node? l with
  | none => .error .notFound
  | some (.text _) => .error .notADirectory
  | some .directory =>
    if component = "" ∨ component = "." then .ok l
    else if component = ".." then .ok l.dropLast
    else if maxNameBytes < component.utf8ByteSize then .error .invalidFilename
    else .ok (l ++ [component])

def walk (fs : Files) (l : Location) : List String → Except FileError Location
  | [] => .ok l
  | c :: rest =>
    match fs.step l c with
    | .error e => .error e
    | .ok l => walk fs l rest

def splitPath : List Char → List (List Char)
  | [] => [[]]
  | c :: cs =>
    if c = '/' then [] :: splitPath cs
    else
      match splitPath cs with
      | [] => [[c]]
      | piece :: rest => (c :: piece) :: rest

def components (path : String) : List String := (splitPath path.toList).map String.ofList

/-- The longest path, in bytes, with the mark at its end. -/
def maxPathBytes : Nat := 4096

def checkPath (path : String) : Except FileError Unit :=
  if '\x00' ∈ path.toList then .error .invalidInput
  else if path = "" then .error .notFound
  else if maxPathBytes ≤ path.utf8ByteSize then .error .invalidFilename
  else .ok ()

def startOf (fs : Files) (path : String) : Location :=
  if path.startsWith "/" then [] else fs.workingDirectory

/-- The location that a path leads to; nothing has to stand there. -/
def locate (fs : Files) (path : String) : Except FileError Location :=
  match checkPath path with
  | .error e => .error e
  | .ok () => fs.walk (fs.startOf path) (components path)

/-- What a path leads to; `none` for a directory. -/
def open? (fs : Files) (path : String) : Except FileError (Option String) :=
  match fs.locate path with
  | .error e => .error e
  | .ok l =>
    match fs.node? l with
    | none => .error .notFound
    | some .directory => .ok none
    | some (.text content) => .ok (some content)

def read (fs : Files) (path : String) : Except FileError String :=
  match fs.open? path with
  | .error e => .error e
  | .ok none => .error .isADirectory
  | .ok (some content) => .ok content

/-- Whether a path leads to a file or directory. -/
def contains (fs : Files) (path : String) : Bool := (fs.open? path).isOk

def isFile (fs : Files) (path : String) : Bool :=
  match fs.open? path with
  | .ok (some _) => true
  | _ => false

def isDirectory (fs : Files) (path : String) : Bool :=
  match fs.open? path with
  | .ok none => true
  | _ => false

/-- What stands at the end of a path: a name in a directory that is there, maybe with a slash after
it, or no name. -/
inductive Ending where
  | name (directory : Location) (name : String) (slash : Bool)
  | noName

def ending (fs : Files) (path : String) : Except FileError Ending :=
  match checkPath path with
  | .error e => .error e
  | .ok () =>
    let backwards := (components path).reverse
    match backwards.dropWhile (· = "") with
    | [] => .ok .noName
    | last :: before =>
      match fs.walk (fs.startOf path) (before.reverse ++ [""]) with
      | .error e => .error e
      | .ok l =>
        if last = "." ∨ last = ".." then .ok .noName
        else .ok (.name l last (backwards.head? == some ""))

/-- The location of a file that can be written at a path. A slash at the end of a path asks for a
directory, there or not. -/
def writable (fs : Files) (path : String) : Except FileError Location :=
  match fs.ending path with
  | .error e => .error e
  | .ok .noName => .error .isADirectory
  | .ok (.name directory name slash) =>
    if slash then .error .isADirectory
    else
      match fs.step directory name with
      | .error e => .error e
      | .ok l =>
        match fs.node? l with
        | some .directory => .error .isADirectory
        | _ => .ok l

/-- Writes the whole text of a file, which may be new; its directory has to exist. -/
def write (fs : Files) (path content : String) : Except FileError Files :=
  (fs.writable path).map fun l => fs.put l (.text content)

/-- Makes one directory; the one that it is in has to exist. -/
def makeOne (fs : Files) (path : String) : Except FileError Files :=
  match fs.ending path with
  | .error e => .error e
  | .ok .noName => .error .alreadyExists
  | .ok (.name directory name _) =>
    match fs.step directory name with
    | .error e => .error e
    | .ok l => if (fs.node? l).isSome then .error .alreadyExists else .ok (fs.put l .directory)

/-- Makes directories one after the other, those that are not there yet. -/
def makeEach (fs : Files) : List String → Except FileError Unit × Files
  | [] => (.ok (), fs)
  | path :: rest =>
    match fs.makeOne path with
    | .ok fs => makeEach fs rest
    | .error e =>
      if e = .alreadyExists ∧ fs.isDirectory path then makeEach fs rest else (.error e, fs)

/-- Makes the first directory of a list that can be made or is there, and then `missing`, which are
the paths before it in the list. -/
def makeFrom (fs : Files) (missing : List String) : List String → Except FileError Unit × Files
  | [] => fs.makeEach missing
  | path :: rest =>
    match fs.makeOne path with
    | .ok fs => fs.makeEach missing
    | .error .notFound => makeFrom fs (path :: missing) rest
    | .error e =>
      if e = .alreadyExists ∧ fs.isDirectory path then fs.makeEach missing else (.error e, fs)

/-- The paths to the directories that lead to the last name of a path, the longest one first. -/
def ancestors (path : String) : List String :=
  match components path with
  | [] => []
  | first :: rest =>
    let names := first :: rest.filter fun c => c ≠ "" ∧ c ≠ "."
    let lengths := ((List.range names.length).drop 1).reverse
    (lengths.map fun n => "/".intercalate (names.take n)).filter (· ≠ "")

/-- Makes a directory and those that lead to it. What was made before a failure stays. -/
def makeDirectory (fs : Files) (path : String) : Except FileError Unit × Files :=
  if path.all (· = '/') then (.ok (), fs) else fs.makeFrom [] (path :: ancestors path)

/-- Writes a file and makes the directories that lead to it. -/
def writeDeep (fs : Files) (path content : String) : Except FileError Unit × Files :=
  match fs.makeDirectory ((ancestors path).headD "") with
  | (.error e, fs) => (.error e, fs)
  | (.ok (), fs) =>
    match fs.write path content with
    | .error e => (.error e, fs)
    | .ok fs => (.ok (), fs)

def remove (fs : Files) (path : String) : Except FileError Files :=
  match fs.ending path with
  | .error e => .error e
  | .ok .noName => .error .isADirectory
  | .ok (.name directory name slash) =>
    match fs.step directory name with
    | .error e => .error e
    | .ok l =>
      match fs.node? l with
      | none => .error .notFound
      | some .directory => .error .isADirectory
      | some (.text _) => if slash then .error .notADirectory else .ok (fs.drop l)

/-- Copies the text of a file to another path. The other file is emptied first, so nothing is left
of a file that is copied to itself. -/
def copy (fs : Files) (source target : String) : Except FileError Files :=
  match fs.open? source with
  | .error e => .error e
  | .ok none => .error .invalidInput
  | .ok (some _) =>
    match fs.write target "" with
    | .error e => .error e
    | .ok emptied =>
      match emptied.read source with
      | .error e => .error e
      | .ok content => emptied.write target content

/-- One spelling for all paths to a file or directory that exists: its absolute path. Other paths
stay as they are. -/
def normalize (fs : Files) (path : String) : String :=
  match fs.locate path with
  | .error _ => path
  | .ok l => if (fs.node? l).isSome then "/" ++ "/".intercalate l else path

/-- The names along a path, by which two spellings of it are compared: the slash at its start, or
the first component if there is none, and after that all components but empty ones and `.`. -/
def names (path : String) : List String :=
  match components path with
  | [] => []
  | first :: rest =>
    (if path.startsWith "/" then "/" else first) :: rest.filter fun c => c ≠ "" ∧ c ≠ "."

end Files

end Vicinity
