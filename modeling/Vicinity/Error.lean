import Vicinity.Space
import Vicinity.Text.Quoted
import Vicinity.Number.Decimal

/-!
What can go wrong, by cause. Each cause has a kind, for callers that only branch on it, and one
wording.
-/

namespace Vicinity

open Number (integerText)

/-- Why a file could not be used. -/
inductive FileError where
  | notFound
  | isADirectory
  | notADirectory
  | alreadyExists
  | invalidInput
  | invalidFilename
  deriving DecidableEq, Repr

def FileError.name : FileError → String
  | notFound => "NotFound"
  | isADirectory => "IsADirectory"
  | notADirectory => "NotADirectory"
  | alreadyExists => "AlreadyExists"
  | invalidInput => "InvalidInput"
  | invalidFilename => "InvalidFilename"

/-- Two counts that have to agree. -/
inductive Compared where
  | idsAndVectors
  | vectorLengths
  | queryLength
  deriving DecidableEq, Repr

def Compared.describe : Compared → String
  | idsAndVectors => "number of ids vs number of vectors"
  | vectorLengths => "vector length"
  | queryLength => "query vector"

/-- Why an argument is refused. `shown` is the refused value in JSON. -/
inductive BadArgument where
  | notPositive (name : String)
  | notPositiveValue (name shown : String)
  | emptyBatch
  | duplicateId (id : Int)
  | malformedParameter (item : String)
  | unnamedParameter (item : String)
  | unknownBackend (name : String)
  | newerManifest (version supported : Nat)
  | otherBackend (built requested : String)
  | notAnObject (what : String)
  | notAString (name shown : String)
  deriving DecidableEq, Repr

def BadArgument.message : BadArgument → String
  | notPositive name => s!"{name} must be a positive integer"
  | notPositiveValue name shown => s!"{name} must be a positive integer, got {shown}"
  | emptyBatch => "cannot build an index from an empty dataset"
  | duplicateId id => s!"duplicate id {integerText id} in build batch"
  | malformedParameter item => s!"malformed parameter {Text.quote item}, expected name=value"
  | unnamedParameter item => s!"malformed parameter {Text.quote item}, empty name"
  | unknownBackend name =>
    s!"unknown backend {Text.quote name} (expected hnsw, exact or usearch)"
  | newerManifest version supported =>
    s!"index manifest version {version} is newer than supported version {supported}"
  | otherBackend built requested =>
    s!"index was built by backend {Text.quote built}, cannot load with {Text.quote requested}"
  | notAnObject what => s!"{what} must be a JSON object"
  | notAString name shown => s!"{name} must be a string, got {shown}"

/-- A step in the life of an index that a backend carries out. -/
inductive Step where
  | createSpace
  | createIndex
  | construct
  | save
  | load
  | setParams
  | search
  deriving DecidableEq, Repr

def Step.name : Step → String
  | createSpace => "create_space"
  | createIndex => "create_index"
  | construct => "construct"
  | save => "save"
  | load => "load"
  | setParams => "set_params"
  | search => "search"

/-- Why a backend gave up. -/
inductive IndexFailure where
  | unknownParameter (name : String)
  | badParameter (name raw : String)
  | tooFewLinks (m : Nat)
  | shortCount (backend : String) (held expected : Nat)
  | otherSpace (found expected : String)
  | entryPastEnd (entry size : Nat)
  | noEntry
  | linkPastEnd (id : Int) (size : Nat)
  | notReady
  | denseVectorsOnly
  | denseQueryOnly
  | idCount (listed held : Nat)
  | unknownPosition (position : Nat)
  | library (step : Step)
  | injected (step : Step)
  deriving DecidableEq, Repr

def IndexFailure.message : IndexFailure → String
  | unknownParameter name => s!"unknown parameter {Text.quote name}"
  | badParameter name raw =>
    s!"parameter {name} expects a positive integer, got {Text.quote raw}"
  | tooFewLinks m => s!"M must be at least 2, got {m}"
  | shortCount backend held expected =>
    s!"{backend} index holds {held} of {expected} vectors"
  | otherSpace found expected =>
    s!"index file holds space {Text.quote found}, expected {Text.quote expected}"
  | entryPastEnd entry size => s!"corrupt graph: entry point {entry} out of {size} nodes"
  | noEntry => "corrupt graph: nodes without an entry point"
  | linkPastEnd id size => s!"corrupt graph: node {integerText id} links past {size} nodes"
  | notReady => "usearch index not built or loaded"
  | denseVectorsOnly => "usearch backend requires dense vectors"
  | denseQueryOnly => "usearch backend requires a dense query"
  | idCount listed held => s!"id table lists {listed} vectors, usearch file holds {held}"
  | unknownPosition position => s!"usearch returned unknown key {position}"
  | library step => s!"usearch {step.name}"
  | injected step => s!"injected failure at {step.name}"

/-- Everything that can go wrong with an index. -/
inductive Error where
  | badArgument (cause : BadArgument)
  | missingParameter (name : String)
  | dimensionMismatch (what : Compared) (expected actual : Nat)
  | unsupportedSpace (name : String)
  | bitsTooFew (dimension : Nat)
  | index (cause : IndexFailure)
  | invalidHandle (handle : Nat)
  | spaceMismatch (built requested : Space)
  | file (cause : FileError)
  | malformedData
  | sizeOverflow
  | nodeOutOfRange
  deriving DecidableEq, Repr

/-- Coarse kinds of errors. -/
inductive ErrorKind where
  | invalidArgument
  | missingParameter
  | dimensionMismatch
  | unsupportedSpaceType
  | encodingConstraintViolation
  | nativeBackendFailure
  | invalidHandle
  | spaceTypeMismatch
  | io
  | overflow
  deriving DecidableEq, Repr

namespace Error

/-- The kind of an error. A size or a position that memory does not have is a kind of its own. -/
def kind : Error → ErrorKind
  | badArgument _ => .invalidArgument
  | missingParameter _ => .missingParameter
  | dimensionMismatch .. => .dimensionMismatch
  | unsupportedSpace _ => .unsupportedSpaceType
  | bitsTooFew _ => .encodingConstraintViolation
  | index _ => .nativeBackendFailure
  | malformedData => .nativeBackendFailure
  | invalidHandle _ => .invalidHandle
  | spaceMismatch .. => .spaceTypeMismatch
  | file _ => .io
  | sizeOverflow => .overflow
  | nodeOutOfRange => .overflow

def message : Error → String
  | badArgument cause => s!"Invalid argument: {cause.message}"
  | missingParameter name => s!"Missing parameter: {name}"
  | dimensionMismatch what expected actual =>
    s!"Dimension mismatch ({what.describe}): expected {expected}, got {actual}"
  | unsupportedSpace name => s!"Unsupported space type: {Text.quote name}"
  | bitsTooFew dimension =>
    "Encoding constraint violated for bit_jaccard: dimension must be at least 2, got " ++
      toString dimension
  | index cause => s!"Backend error: {cause.message}"
  | invalidHandle handle => s!"Invalid index handle: {handle}"
  | spaceMismatch built requested =>
    s!"Space type mismatch: index was built with {built.name}, requested {requested.name}"
  | file cause => cause.name
  | malformedData => "Serialization error"
  | sizeOverflow => "capacity overflow"
  | nodeOutOfRange => "index out of bounds"

end Error

/-- The space of the given name, or the error that says it is unknown. -/
def Space.ofName (name : String) : Except Error Space :=
  match Space.ofName? name with
  | some space => .ok space
  | none => .error (.unsupportedSpace name)

end Vicinity
