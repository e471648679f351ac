import Vicinity.Number.Literal
import Vicinity.Yaml.Token

/-!
The nodes of a YAML text. A scalar without quotes is read as what it looks like: nothing, a switch,
a number or a text. An alias stands for the node with its anchor.
-/

namespace Vicinity.Yaml

/-- A node. A fraction keeps its text. `unreadable` is a scalar that is not what its tag says, or an
alias within the very node that it stands for. -/
inductive Node where
  | null
  | unreadable
  | bool (b : Bool)
  | int (i : Int)
  | real (text : String)
  | text (s : String)
  | sequence (items : List Node)
  | mapping (entries : List (Node × Node))

namespace Node

/-- An integer of 64 bits in some base, which may have a sign. -/
def inBase? (base : Nat) (cs : List Char) : Option Int :=
  let (negative, digits) := match cs with
    | '-' :: rest => (true, rest)
    | '+' :: rest => (false, rest)
    | cs => (false, cs)
  if digits.isEmpty then none
  else
    match digits.mapM Json.hexValue? with
    | none => none
    | some ds =>
      let n := ds.foldl (fun n d => base * n + d) 0
      let i : Int := if negative then -n else n
      if ds.all (· < base) ∧ Number.fitsSigned 64 i then some i else none

/-- Spellings of the fractions that have no digits. -/
def specialReals : List String :=
  [".inf", ".Inf", ".INF", "+.inf", "+.Inf", "+.INF", "-.inf", "-.Inf", "-.INF",
    ".nan", ".NaN", ".NAN"]

def isReal (s : String) : Bool :=
  specialReals.contains s || (s.toList.any Char.isDigit && (Number.double? s).isSome)

/-- The integer that a text spells with a mark in front. -/
def marked? : List Char → Option Int
  | '0' :: 'x' :: rest => inBase? 16 rest
  | '0' :: 'o' :: rest => inBase? 8 rest
  | '+' :: rest => Number.signed? 64 (String.ofList rest)
  | _ => none

/-- A scalar without quotes and without a tag. -/
def ofPlain (s : String) : Node :=
  match marked? s.toList with
  | some i => .int i
  | none =>
    if s = "" ∨ s = "~" ∨ s = "null" then .null
    else if s = "true" then .bool true
    else if s = "false" then .bool false
    else
      match Number.signed? 64 s with
      | some i => .int i
      | none => if isReal s then .real s else .text s

/-- What the handles of the common tags stand for. -/
def commonTags : String := "tag:yaml.org,2002:"

def ofTagged (start suffix s : String) : Node :=
  if start ≠ commonTags then .text s
  else if suffix = "bool" then
    if s = "true" then .bool true else if s = "false" then .bool false else .unreadable
  else if suffix = "int" then ((Number.signed? 64 s).map .int).getD .unreadable
  else if suffix = "float" then if isReal s then .real s else .unreadable
  else if suffix = "null" then if s = "~" ∨ s = "null" then .null else .unreadable
  else .text s

def isSameScalar : Node → Node → Bool
  | .null, .null => true
  | .bool a, .bool b => a == b
  | .int a, .int b => a == b
  | .real a, .real b => a == b
  | .text a, .text b => a == b
  | _, _ => false

/-- Keys and values in turn, as pairs. Something unreadable is no key. -/
def pairs : List Node → List (Node × Node)
  | .unreadable :: rest => pairs rest
  | key :: value :: rest => (key, value) :: pairs rest
  | _ => []

def hasDistinctKeys : List (Node × Node) → Bool
  | [] => true
  | (key, _) :: rest => rest.all (fun e => !key.isSameScalar e.1) && hasDistinctKeys rest

/-- A mapping of keys and values that come in turn. -/
def ofParts? (parts : List Node) : Option Node :=
  let entries := pairs parts
  if hasDistinctKeys entries then some (.mapping entries) else none

end Node

/-- How far nodes have been read: the tokens that are left, what tag directives say, which node an
anchor names by its number, and the nodes that are finished. -/
structure Reading where
  tokens : List Token
  handles : List (String × String)
  anchors : List (String × Nat)
  nodes : List (Nat × Node)

/-- What may stand before a node: an anchor, by its number, and a tag, by its start and the rest. -/
structure Marks where
  anchor : Option Nat
  tag : Option (String × String)

namespace Reading

def goOn (r : Reading) (tokens : List Token) : Reading := { r with tokens }

def withAnchor (r : Reading) (name : String) : Nat × Reading :=
  (r.anchors.length, { r with anchors := (name, r.anchors.length) :: r.anchors })

/-- The start and the rest of a tag. A handle between two marks has to be known. -/
def tag? (r : Reading) (handle suffix : String) : Option (String × String) :=
  match r.handles.lookup handle with
  | some start => some (start, suffix)
  | none =>
    if handle = "!!" then some (Node.commonTags, suffix)
    else if handle.length ≥ 2 then none
    else some (handle, suffix)

/-- The anchor and the tag before a node, in either order. -/
def marks? (r : Reading) : Option (Marks × Reading) :=
  match r.tokens with
  | .anchor name :: .tag handle suffix :: rest =>
    let (n, r) := r.withAnchor name
    (r.tag? handle suffix).map fun tag => (⟨some n, some tag⟩, r.goOn rest)
  | .tag handle suffix :: .anchor name :: rest =>
    let (n, r) := r.withAnchor name
    (r.tag? handle suffix).map fun tag => (⟨some n, some tag⟩, r.goOn rest)
  | .anchor name :: rest =>
    let (n, r) := r.withAnchor name
    some (⟨some n, none⟩, r.goOn rest)
  | .tag handle suffix :: rest =>
    (r.tag? handle suffix).map fun tag => (⟨none, some tag⟩, r.goOn rest)
  | _ => some (⟨none, none⟩, r)

/-- A node that is read, with its anchor if it has one. -/
def finish (r : Reading) (m : Marks) (n : Node) : Node × Reading :=
  match m.anchor with
  | some a => (n, { r with nodes := (a, n) :: r.nodes })
  | none => (n, r)

def scalar (m : Marks) (plain : Bool) (text : String) : Node :=
  if !plain then .text text
  else
    match m.tag with
    | some (start, suffix) => Node.ofTagged start suffix text
    | none => Node.ofPlain text

def alias? (r : Reading) (name : String) : Option Node :=
  (r.anchors.lookup name).map fun a => (r.nodes.lookup a).getD .unreadable

/-- A node of which nothing but an anchor or a tag is there. -/
def bare (r : Reading) (m : Marks) : Option (Node × Reading) :=
  if m.anchor.isSome ∨ m.tag.isSome then some (r.finish m (scalar m true "")) else none

def sequence (m : Marks) (read : List Node × Reading) : Node × Reading :=
  read.2.finish m (.sequence read.1)

/-- A finished mapping of keys and values that come in turn. -/
def mapping (m : Marks) (read : List Node × Reading) : Option (Node × Reading) :=
  (Node.ofParts? read.1).map (read.2.finish m)

/-- The tokens that may stand where a key or a value is missing in a block. -/
def partEnds : List Token := [.key, .value, .blockEnd]

/-- Passes over the comma before all but the first of several things in brackets. -/
def afterComma (first : Bool) : List Token → Option (List Token)
  | .flowEntry :: rest => some (if first then .flowEntry :: rest else rest)
  | tokens => if first then some tokens else none

mutual

/-- A node. It may be a block, or a sequence whose dashes keep to the column of the key before
it. -/
def node (block atKey : Bool) : Nat → Reading → Option (Node × Reading)
  | 0, _ => none
  | fuel + 1, r =>
    match r.tokens with
    | .alias name :: rest => (r.alias? name).map fun n => (n, r.goOn rest)
    | _ =>
      r.marks?.bind fun (m, r) =>
        match r.tokens with
        | .scalar plain text :: rest => some ((r.goOn rest).finish m (scalar m plain text))
        | .flowSequenceStart :: rest => (flowItems fuel true [] (r.goOn rest)).map (sequence m)
        | .flowMappingStart :: rest => (flowParts fuel true [] (r.goOn rest)).bind (mapping m)
        | .blockEntry :: _ =>
          if atKey then (dashes fuel [] r).map (sequence m) else r.bare m
        | .blockSequenceStart :: rest =>
          if block then (blockItems fuel [] (r.goOn rest)).map (sequence m) else r.bare m
        | .blockMappingStart :: rest =>
          if block then (blockParts fuel [] (r.goOn rest)).bind (mapping m) else r.bare m
        | _ => r.bare m

/-- A node, or nothing where one of some tokens comes instead. -/
def nodeBefore (ends : List Token) (block atKey : Bool) : Nat → Reading → Option (Node × Reading)
  | 0, _ => none
  | fuel + 1, r =>
    if r.tokens.head?.any ends.contains then some (.null, r) else node block atKey fuel r

/-- The value behind a colon, or nothing where there is no colon. -/
def valueBefore (ends : List Token) (block : Bool) : Nat → Reading → Option (Node × Reading)
  | 0, _ => none
  | fuel + 1, r =>
    match r.tokens with
    | .value :: rest => nodeBefore ends block block fuel (r.goOn rest)
    | _ => some (.null, r)

/-- The items of a sequence whose dashes keep to the column of a key, after those that were read. -/
def dashes : Nat → List Node → Reading → Option (List Node × Reading)
  | 0, _, _ => none
  | fuel + 1, read, r =>
    match r.tokens with
    | .blockEntry :: rest =>
      (nodeBefore (.blockEntry :: partEnds) true false fuel (r.goOn rest)).bind fun (item, r) =>
        dashes fuel (item :: read) r
    | _ => some (read.reverse, r)

/-- The items of a sequence up to its end, after those that were read. -/
def blockItems : Nat → List Node → Reading → Option (List Node × Reading)
  | 0, _, _ => none
  | fuel + 1, read, r =>
    match r.tokens with
    | .blockEnd :: rest => some (read.reverse, r.goOn rest)
    | .blockEntry :: rest =>
      (nodeBefore [.blockEntry, .blockEnd] true false fuel (r.goOn rest)).bind fun (item, r) =>
        blockItems fuel (item :: read) r
    | _ => none

/-- The keys and values of a mapping up to its end, after those that were read. -/
def blockParts : Nat → List Node → Reading → Option (List Node × Reading)
  | 0, _, _ => none
  | fuel + 1, read, r =>
    match r.tokens with
    | .blockEnd :: rest => some (read.reverse, r.goOn rest)
    | .key :: rest =>
      (nodeBefore partEnds true true fuel (r.goOn rest)).bind fun (key, r) =>
        (valueBefore partEnds true fuel r).bind fun (value, r) =>
          blockParts fuel (value :: key :: read) r
    | .value :: _ =>
      (valueBefore partEnds true fuel r).bind fun (value, r) =>
        blockParts fuel (value :: .null :: read) r
    | _ => none

/-- The items of a sequence up to its closing bracket, after those that were read. A key makes a
mapping of a single pair. -/
def flowItems : Nat → Bool → List Node → Reading → Option (List Node × Reading)
  | 0, _, _, _ => none
  | fuel + 1, first, read, r =>
    match r.tokens with
    | .flowSequenceEnd :: rest => some (read.reverse, r.goOn rest)
    | tokens =>
      match afterComma first tokens with
      | none => none
      | some (.flowSequenceEnd :: rest) => some (read.reverse, r.goOn rest)
      | some (.key :: rest) =>
        (node false false fuel (r.goOn rest)).bind fun (key, r) =>
          (valueBefore [.flowEntry, .flowSequenceEnd] false fuel r).bind fun (value, r) =>
            (Node.ofParts? [key, value]).bind fun pair => flowItems fuel false (pair :: read) r
      | some tokens =>
        (node false false fuel (r.goOn tokens)).bind fun (item, r) =>
          flowItems fuel false (item :: read) r

/-- The keys and values of a mapping up to its closing bracket, after those that were read. A key
may stand without a colon. -/
def flowParts : Nat → Bool → List Node → Reading → Option (List Node × Reading)
  | 0, _, _, _ => none
  | fuel + 1, first, read, r =>
    match r.tokens with
    | .flowMappingEnd :: rest => some (read.reverse, r.goOn rest)
    | tokens =>
      match afterComma first tokens with
      | none => none
      | some (.flowMappingEnd :: rest) => some (read.reverse, r.goOn rest)
      | some (.key :: rest) =>
        (nodeBefore [.value, .flowEntry, .flowMappingEnd] false false fuel (r.goOn rest)).bind
          fun (key, r) =>
            (valueBefore [.flowEntry, .flowMappingEnd] false fuel r).bind fun (value, r) =>
              flowParts fuel false (value :: key :: read) r
      | some (.value :: rest) =>
        (valueBefore [.flowEntry, .flowMappingEnd] false fuel (r.goOn (.value :: rest))).bind
          fun (value, r) => flowParts fuel false (value :: .null :: read) r
      | some tokens =>
        (node false false fuel (r.goOn tokens)).bind fun (key, r) =>
          flowParts fuel false (.null :: key :: read) r

end

/-- Reads directives. Those of the last one count. A version may be given once. -/
def directives : Bool → List (String × String) → List Token →
    Option (List (String × String) × List Token)
  | versioned, _, .versionDirective :: rest =>
    if versioned then none else directives true [] rest
  | versioned, _, .tagDirective handle start :: rest => directives versioned [(handle, start)] rest
  | _, handles, tokens => some (handles, tokens)

/-- Whether a token stands at the edge of a document. -/
def isEdge : Token → Bool
  | .versionDirective | .tagDirective .. | .documentStart | .documentEnd => true
  | _ => false

def document (r : Reading) : Option (Node × Reading) :=
  if r.tokens.head?.all isEdge then some (.null, r)
  else node true false (4 * r.tokens.length + 4) r

end Reading

/-- The node of a text of one document, or nothing for a text without a document. -/
def nodeOfText? (text : String) : Option (Option Node) :=
  (tokensOfText? text).bind fun tokens =>
    match tokens.dropWhile (· = .documentEnd) with
    | [] => some none
    | tokens =>
      (Reading.directives false [] tokens).bind fun (handles, after) =>
        let body := match after with
          | .documentStart :: rest => some rest
          | _ => if after.length = tokens.length then some after else none
        (body.bind fun rest => Reading.document ⟨rest, handles, [], []⟩).bind fun (n, r) =>
          if (r.tokens.dropWhile (· = .documentEnd)).isEmpty then some (some n) else none

end Vicinity.Yaml
