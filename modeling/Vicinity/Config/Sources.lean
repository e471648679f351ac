import Vicinity.Config.Layers
import Vicinity.Files
import Vicinity.Ini.Document
import Vicinity.Json.Reader
import Vicinity.Json5.Document
import Vicinity.Ron.Document
import Vicinity.Toml.Document
import Vicinity.Yaml.Node

/-!
Where configurations come from: files, whose format their extension tells, and environment
variables, which a common start of their names marks.
-/

namespace Vicinity.Config

/-- The entries of an INI document. A section is a table. Of entries or sections with one name the
last one counts. -/
def entriesOfIni (sections : List Ini.Section) : List (String × Value) :=
  let put (entries : List (String × Value)) (key : String) (v : Value) := putEntry key v entries
  let texts (start : List (String × Value)) (s : Ini.Section) :=
    s.entries.foldl (fun entries (key, text) => put entries key (.text text)) start
  sections.foldl (fun entries s =>
    match s.name with
    | some name => put entries name (.table (texts [] s))
    | none => texts entries s) []

/-- The key of an entry; a collection is none. -/
def keyOfYaml? : Yaml.Node → Option String
  | .text s => some s
  | .real text => some text
  | .int i => some (Number.integerText i)
  | .bool b => some (if b then "true" else "false")
  | _ => none

mutual

/-- A value from a YAML text. A fraction has to have digits. -/
def Value.ofYaml? : Yaml.Node → Option Value
  | .null | .unreadable => some .absent
  | .bool b => some (.bool b)
  | .int i => some (.int i)
  | .real text => (Number.double? text).map .float
  | .text s => some (.text s)
  | .sequence items => (itemsOfYaml? items).map .list
  | .mapping entries => (entriesOfYaml? [] entries).map .table

def itemsOfYaml? : List Yaml.Node → Option (List Value)
  | [] => some []
  | n :: rest => (Value.ofYaml? n).bind fun v => (itemsOfYaml? rest).map (v :: ·)

/-- The entries of a mapping, added to others. Of entries under one key the last one counts. -/
def entriesOfYaml? (read : List (String × Value)) :
    List (Yaml.Node × Yaml.Node) → Option (List (String × Value))
  | [] => some read
  | (key, n) :: rest =>
    match keyOfYaml? key, Value.ofYaml? n with
    | some key, some v => entriesOfYaml? (putEntry key v read) rest
    | _, _ => none

end

/-- A format of configuration files. -/
inductive FileFormat where
  | toml
  | json
  | yaml
  | ini
  | ron
  | json5
  deriving DecidableEq, Repr

namespace FileFormat

/-- Every format, in the order in which extensions are tried. -/
def all : List FileFormat := [toml, json, yaml, ini, ron, json5]

/-- The extensions of files of a format, in the order in which they are tried. -/
def extensions : FileFormat → List String
  | toml => ["toml"]
  | json => ["json"]
  | yaml => ["yaml", "yml"]
  | ini => ["ini"]
  | ron => ["ron"]
  | json5 => ["json5"]

def read (text : String) : FileFormat → Option (List (String × Value))
  | toml => (Toml.entriesOfText? text).map entriesOfToml
  | json =>
    match Json.Value.ofText? text with
    | some (.object members) => some (entriesOfJson members)
    | _ => none
  | yaml =>
    match Yaml.nodeOfText? text with
    | some none => some []
    | some (some (.mapping entries)) => entriesOfYaml? [] entries
    | _ => none
  | ini => (Ini.sectionsOfText? text).map entriesOfIni
  | ron =>
    match Ron.valueOfText? text with
    | some (.table entries) => some entries
    | _ => none
  | json5 =>
    match Json5.valueOfText? text with
    | some (.object members) => some (entriesOfJson members)
    | _ => none

end FileFormat

/-- Every extension with its format, in the order in which they are tried. -/
def extensions : List (String × FileFormat) :=
  FileFormat.all.flatMap fun f => f.extensions.map fun x => (x, f)

def fileName (path : String) : List Char :=
  (path.toList.reverse.takeWhile (· ≠ '/')).reverse

/-- What follows the last point of a file name. A point that stands first does not count. -/
def extensionOf (path : String) : String :=
  match (fileName path).drop 1 with
  | [] => ""
  | rest =>
    if '.' ∈ rest then String.ofList (rest.reverse.takeWhile (· ≠ '.')).reverse else ""

/-- A path up to its last name, without slashes and points that stand for nothing after it; `none`
if it ends in the directory above or in no name at all. -/
def upToName? (path : String) : Option String :=
  match (Files.components path).reverse.dropWhile fun c => c = "" || c = "." with
  | [] => none
  | last :: before =>
    if last = ".." then none else some ("/".intercalate (before.reverse ++ [last]))

/-- The file that a name stands for: the file of that very name, or else the first one whose name
has an extension added. `none` inside if the format of a file of that very name is not known. -/
def locate (fs : Files) (name : String) : Option (String × Option FileFormat) :=
  if fs.isFile name then some (name, extensions.lookup (extensionOf name))
  else
    (upToName? name).bind fun stem =>
      (extensions.find? fun (x, _) => fs.isFile (stem ++ "." ++ x)).map fun (x, f) =>
        (stem ++ "." ++ x, some f)

/-- A text without the mark of its byte order. -/
def withoutMark (text : String) : String :=
  match text.toList with
  | '\ufeff' :: rest => String.ofList rest
  | _ => text

/-- The entries of the file that a name stands for. A file that is not `required` may be missing;
one that is there has to be in order. -/
def readFile (fs : Files) (name : String) (required : Bool) : Option (List (String × Value)) :=
  match locate fs name with
  | some (path, some format) =>
    match fs.read path with
    | .ok text => format.read (withoutMark text)
    | .error _ => none
  | _ => if required then none else some []

/-- The entries that environment variables give: those whose names start with `mark`, without that
start. The case of letters in a name does not matter. -/
def ofEnvironment (mark : String) (environment : List (String × String)) : List (String × Value) :=
  environment.filterMap fun (name, value) =>
    let folded := (Text.foldKey name).toList
    if mark.toList.isPrefixOf folded then
      some (String.ofList (folded.drop mark.length), Value.ofTyped value)
    else none

end Vicinity.Config
