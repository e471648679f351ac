import Vicinity.Config.Value

/-!
Configurations in layers. Each source gives values under keys, and a later source replaces what
an earlier one gave. The case of letters in a key does not matter. A key may be a path such as
`a.b` or `a[0]`; one that is no path is taken as it is.
-/

namespace Vicinity.Config

/-- A step further into a value. -/
inductive PathStep where
  | key (name : String)
  | index (i : Int)

/-- Whether a character may stand in a name along a path. -/
def isPathChar (c : Char) : Bool := c.isAlphanum || c = ' ' || c = '_' || c = '-'

/-- The index between two brackets, which may have spaces and tabs around it. -/
def indexOf? (inside : List Char) : Option Int :=
  let isSpace := fun c => c = ' ' || c = '\t'
  match ((inside.dropWhile isSpace).reverse.dropWhile isSpace).reverse with
  | '+' :: _ => none
  | cs => Number.signed? 64 (String.ofList cs)

/-- The steps after the first name of a path; at most `fuel` of them. -/
def pathSteps? : Nat → List Char → Option (List PathStep)
  | _, [] => some []
  | 0, _ => none
  | fuel + 1, '.' :: rest =>
    let name := rest.takeWhile isPathChar
    if name.isEmpty then none
    else (pathSteps? fuel (rest.drop name.length)).map (.key (String.ofList name) :: ·)
  | fuel + 1, '[' :: rest =>
    let inside := rest.takeWhile (· ≠ ']')
    match rest.drop inside.length with
    | ']' :: rest =>
      match indexOf? inside with
      | some i => (pathSteps? fuel rest).map (.index i :: ·)
      | none => none
    | _ => none
  | _, _ => none

/-- The path that a key spells, or the key itself where it spells none. -/
def pathOf (key : String) : String × List PathStep :=
  let cs := key.toList
  let name := cs.takeWhile isPathChar
  if name.isEmpty then (key, [])
  else
    match pathSteps? cs.length (cs.drop name.length) with
    | some steps => (String.ofList name, steps)
    | none => (key, [])

/-- The entries of a table. Anything else has none. -/
def entriesOf : Value → List (String × Value)
  | .table entries => entries
  | _ => []

/-- The items of a list. Anything else has none. -/
def itemsOf : Value → List Value
  | .list items => items
  | _ => []

/-- Puts a value under a key in place of the one there. -/
def putEntry (key : String) (v : Value) : List (String × Value) → List (String × Value)
  | [] => [(key, v)]
  | (k, w) :: rest => if k = key then (key, v) :: rest else (k, w) :: putEntry key v rest

mutual

/-- A value in place of an older one, which may be missing. A table is merged into what is there
entry by entry, and an empty one leaves it as it is. -/
def merge (older : Option Value) : Value → Value
  | .table [] => older.getD (.table [])
  | .table (e :: rest) =>
    .table (mergeEntries (entriesOf (older.getD (.table []))) (e :: rest))
  | v => v

/-- Entries with others merged into them one after the other. -/
def mergeEntries (entries : List (String × Value)) :
    List (String × Value) → List (String × Value)
  | [] => entries
  | (key, v) :: rest =>
    let key := Text.foldKey key
    mergeEntries (putEntry key (merge (entries.lookup key) v) entries) rest

end

/-- The place of an index in a list of some length; a negative one counts from the end. -/
def placeOf (length : Nat) (i : Int) : Nat := if 0 ≤ i then i.toNat else length - i.natAbs

/-- Puts an item into a list, which is filled up to it where it is too short. -/
def putItem (i : Nat) (v : Value) (items : List Value) : List Value :=
  (items ++ List.replicate (i + 1 - items.length) Value.absent).set i v

/-- A value with another one merged into it along a path. What is in the way is replaced. -/
def mergeAt (older : Option Value) (v : Value) : List PathStep → Value
  | [] => merge older v
  | .key name :: rest =>
    let entries := entriesOf (older.getD .absent)
    let name := Text.foldKey name
    .table (putEntry name (mergeAt (entries.lookup name) v rest) entries)
  | .index i :: rest =>
    let items := itemsOf (older.getD .absent)
    let place := placeOf items.length i
    .list (putItem place (mergeAt items[place]? v rest) items)

/-- Takes in what a source gives under one key. -/
def addEntry (entries : List (String × Value)) (entry : String × Value) :
    List (String × Value) :=
  let (name, steps) := pathOf entry.1
  let name := Text.foldKey name
  putEntry name (mergeAt (entries.lookup name) entry.2 steps) entries

def addSource (entries : List (String × Value)) (source : List (String × Value)) :
    List (String × Value) :=
  source.foldl addEntry entries

/-- The entries of several sources, the last one counting most. -/
def layered (sources : List (List (String × Value))) : List (String × Value) :=
  sources.foldl addSource []

end Vicinity.Config
