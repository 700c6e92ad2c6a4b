/- # Nodes

What a document is made of before its scalars are read: scalars, lists and mappings,
each with the tag that names its type. Lists and mappings are numbered, so that one can be
told from another that looks the same.

A node that has an anchor is kept in a table of the document and stands by that name
wherever it is met, the first time too. So a node may hold itself.

The core tags share a beginning; any other tag names nothing that a configuration can
hold. -/
import BlockWire.Text.CodePoint

namespace BlockWire.Yaml

set_option autoImplicit false

/-! ## Tags -/

inductive Tag where
  | null
  | bool
  | int
  | float
  | binary
  | timestamp
  | str
  | seq
  | map
  | set
  | omap
  | pairs
  | merge
  | value
  | unknown
deriving DecidableEq

namespace Tag

def coreMark : Text := "tag:yaml.org,2002:"

def names : List (Text × Tag) :=
  [("null", .null), ("bool", .bool), ("int", .int), ("float", .float), ("binary", .binary),
    ("timestamp", .timestamp), ("str", .str), ("seq", .seq), ("map", .map), ("set", .set),
    ("omap", .omap), ("pairs", .pairs), ("merge", .merge), ("value", .value)]

def ofText (t : Text) : Tag :=
  ((Text.after? coreMark t).bind fun name => names.lookup name).getD .unknown

/-- The tag that leaves the type to the shape. -/
def bare : Text := "!"

/-- Whether a tag asks for a scalar. -/
def isScalar : Tag → Bool
  | .null | .bool | .int | .float | .binary | .timestamp | .str => true
  | _ => false

def isCollection : Tag → Bool
  | .seq | .map | .set | .omap | .pairs => true
  | _ => false

end Tag

/-! ## Nodes and their names -/

inductive Node where
  | scalar (tag : Tag) (text : Text)
  | sequence (number : Nat) (tag : Tag) (items : List Node)
  | mapping (number : Nat) (tag : Tag) (entries : List (Node × Node))
  | named (name : Text)

abbrev Entry := Node × Node

/-- Nodes by the names of their anchors. -/
abbrev Anchors := List (Text × Node)

namespace Anchors

/-- A node, or the one that its name stands for. -/
def bare (anchors : Anchors) : Node → Node
  | .named name => (anchors.lookup name).getD (.named name)
  | node => node

def hasTag (anchors : Anchors) (tag : Tag) (node : Node) : Bool :=
  match anchors.bare node with
  | .scalar found _ => found == tag
  | .sequence _ found _ => found == tag
  | .mapping _ found _ => found == tag
  | .named _ => false

end Anchors

/-! ## Merges -/

/-- A mapping without its tag. -/
structure Fields where
  number : Nat
  entries : List Entry

def fields? (anchors : Anchors) (node : Node) : Option Fields :=
  match anchors.bare node with
  | .mapping number _ entries => some ⟨number, entries⟩
  | _ => none

/-- The mappings that a merge names: one, or several in a list, of which the first is
the last to be looked at. -/
def merged? (anchors : Anchors) (value : Node) : Option (List Fields) :=
  match anchors.bare value with
  | .sequence _ _ items => items.reverse.mapM (fields? anchors)
  | _ => (fields? anchors value).map ([·])

mutual

/-- The entries of a mapping, those that its merges bring in front of its own; nothing
if a merge names something else. `own` holds its entries so far, the last first. `busy`
holds the mappings whose merges are being looked at, without the merge that led here: a
mapping may name itself. -/
def flatten (anchors : Anchors) :
    Nat → List (Nat × List Entry) → List Entry → Fields → Option (List Entry)
  | 0, _, _, _ => none
  | _, _, own, ⟨_, []⟩ => some own.reverse
  | fuel + 1, busy, own, ⟨number, (key, value) :: rest⟩ =>
      if anchors.hasTag .merge key then do
        let left := own.reverse ++ rest
        let merged ← flattenAll anchors fuel ((number, left) :: busy) (← merged? anchors value)
        let behind ← flatten anchors fuel busy own ⟨number, rest⟩
        some (merged ++ behind)
      else flatten anchors fuel busy ((key, value) :: own) ⟨number, rest⟩

def flattenAll (anchors : Anchors) :
    Nat → List (Nat × List Entry) → List Fields → Option (List Entry)
  | 0, _, _ => none
  | _, _, [] => some []
  | fuel + 1, busy, found :: rest => do
      let entries := (busy.lookup found.number).getD found.entries
      let first ← flatten anchors fuel busy [] ⟨found.number, entries⟩
      let behind ← flattenAll anchors fuel busy rest
      some (first ++ behind)

end

end BlockWire.Yaml
