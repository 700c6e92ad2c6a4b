/- # YAML documents

A text is read into nodes, and these into a value. Faults of the text come before those
of its scalars.

A scalar is read as its tag asks. A list or a mapping is what its tag asks for if that
is a collection of its kind; a mapping may also stand for a scalar, which is then the
value of its key for that.

A list or a mapping that is met inside itself is `outer` there. What a name denotes
depends on where it is met only if such a place lies in it, so any other value is kept
and found again. Whatever stands in a mapping at the root is read as if it stood alone. -/
import BlockWire.Yaml.Layout
import BlockWire.Yaml.Members
import BlockWire.Yaml.Node
import BlockWire.Yaml.Scalar

namespace BlockWire.Yaml

set_option autoImplicit false

structure Document where
  root : Node
  anchors : Anchors

/-- The values of names that have been read, and whether a node was met inside itself. -/
structure Progress where
  known : List (Text × Found Setting)
  inside : Bool

abbrev Denote := StateM Progress

/-- The text of a scalar, or of the value that stands for a mapping. -/
def standIn? (anchors : Anchors) : Nat → Node → Option Text
  | 0, _ => none
  | fuel + 1, node =>
      match anchors.bare node with
      | .scalar _ text => some text
      | .mapping _ _ entries =>
          (entries.find? fun entry => anchors.hasTag .value entry.1).bind fun entry =>
            standIn? anchors fuel entry.2
      | _ => none

/-- A mapping with a scalar's tag. -/
def mappingScalar (anchors : Anchors) (fuel : Nat) (tag : Tag) (node : Node) : Found Setting :=
  match standIn? anchors fuel node with
  | some text =>
      if tag = .timestamp then .fault 0 .manifoldTimestamp else .ofExcept (scalarValue tag text)
  | none => .fault 0 .malformed

/-- A tag that does not fit a collection. One that asks for another collection is only
found out below. -/
def misfit (tag : Tag) : Found Setting :=
  .fault (if tag.isCollection then 1 else 0) .malformed

def single? (anchors : Anchors) (node : Node) : Option Entry :=
  match anchors.bare node with
  | .mapping _ _ [entry] => some entry
  | _ => none

def name? : Node → Option Text
  | .named name => some name
  | _ => none

def keyOf (anchors : Anchors) (node : Node) (value : Setting) : Key :=
  match anchors.bare node, value with
  | .scalar _ text, .float .nan =>
      ⟨value, if isNanWord text then .value else .name (name? node)⟩
  | _, _ => ⟨value, .value⟩

/-- Collections are no keys. -/
def checkedKey (anchors : Anchors) (node : Node) : Found Setting → Found Key
  | .value value =>
      if value.isCollection then .fault 0 .malformed else .value (keyOf anchors node value)
  | .fault depth f => .fault depth f

/-- A list or a mapping inside itself. -/
def met (isMapping : Bool) : Denote (Found Setting) := do
  modify fun s => { s with inside := true }
  return .value (.outer isMapping)

mutual

/-- A node, met inside the lists and mappings whose numbers are `around`. -/
def denote (anchors : Anchors) : Nat → List Nat → Node → Denote (Found Setting)
  | 0, _, _ => return .fault 0 .malformed
  | fuel + 1, around, .named name => do
      let before ← get
      match before.known.lookup name with
      | some found => return found
      | none =>
          set { before with inside := false }
          let found ← denoteBare anchors fuel around (anchors.bare (.named name))
          let after ← get
          let known := if after.inside then after.known else (name, found) :: after.known
          set (Progress.mk known (before.inside || after.inside))
          return found
  | fuel + 1, around, node => denoteBare anchors fuel around node

def denoteBare (anchors : Anchors) : Nat → List Nat → Node → Denote (Found Setting)
  | 0, _, _ => return .fault 0 .malformed
  | _, _, .scalar tag text =>
      return if tag.isCollection then misfit tag else .ofExcept (scalarValue tag text)
  | _, _, .named _ => return .fault 0 .malformed
  | fuel + 1, around, .sequence number tag items =>
      if around.contains number then met false
      else
        match tag with
        | .seq => return ((← denoteAll anchors fuel (number :: around) items).map .list).below
        | .omap | .pairs =>
            match items.mapM (single? anchors) with
            | none => return .fault 1 .malformed
            | some entries =>
                return ((← denotePairs anchors fuel (number :: around) entries).map .list).below
        | tag => return misfit tag
  | fuel + 1, around, .mapping number tag entries =>
      if around.contains number then met true
      else
        match tag with
        | .map =>
            return ((← denoteFields anchors fuel (number :: around) ⟨number, entries⟩).map
              .mapping).below
        | .set =>
            return ((← denoteFields anchors fuel (number :: around) ⟨number, entries⟩).map
              fun built => .set (Members.ordered (built.map Prod.fst))).below
        | tag =>
            if tag.isScalar then
              return mappingScalar anchors fuel tag (.mapping number tag entries)
            else return misfit tag

def denoteAll (anchors : Anchors) :
    Nat → List Nat → List Node → Denote (Found (List Setting))
  | 0, _, _ => return .fault 0 .malformed
  | _, _, [] => return .value []
  | fuel + 1, around, item :: rest => do
      let item ← denote anchors fuel around item
      let rest ← denoteAll anchors fuel around rest
      return item.both (· :: ·) rest

def denotePairs (anchors : Anchors) :
    Nat → List Nat → List Entry → Denote (Found (List Setting))
  | 0, _, _ => return .fault 0 .malformed
  | _, _, [] => return .value []
  | fuel + 1, around, (key, value) :: rest => do
      let key ← denote anchors fuel around key
      let value ← denote anchors fuel around value
      let rest ← denotePairs anchors fuel around rest
      return (key.both .pair value).both (· :: ·) rest

def denoteEntries (anchors : Anchors) :
    Nat → List Nat → List Entry → Denote (Found (List (Key × Setting)))
  | 0, _, _ => return .fault 0 .malformed
  | _, _, [] => return .value []
  | fuel + 1, around, (key, value) :: rest => do
      let key := checkedKey anchors key (← denote anchors fuel around key)
      let value ← denote anchors fuel around value
      let rest ← denoteEntries anchors fuel around rest
      return (key.both Prod.mk value).both (· :: ·) rest

/-- The entries of a mapping, its merges among them. -/
def denoteFields (anchors : Anchors) :
    Nat → List Nat → Fields → Denote (Found (List (Setting × Setting)))
  | 0, _, _ => return .fault 0 .malformed
  | fuel + 1, around, fields =>
      match flatten anchors fuel [] [] fields with
      | none => return .fault 0 .malformed
      | some entries => return (← denoteEntries anchors fuel around entries).map Key.entries

end

/-- The root, its entries read as if each stood alone. -/
def denoteRoot (anchors : Anchors) (fuel : Nat) : Node → Denote (Found Setting)
  | .mapping number .map entries =>
      return ((← denoteFields anchors fuel [] ⟨number, entries⟩).map .mapping).below
  | node => denoteBare anchors fuel [] node

/-- What a document denotes; `fuel` bounds the steps from the root to a node, through
names too. -/
def Document.value (d : Document) (fuel : Nat) : Except Fault Setting :=
  ((denoteRoot d.anchors fuel (d.anchors.bare d.root)).run ⟨[], false⟩).1.outcome

/-! ## From a text -/

/-- A carriage return, with or without a line feed, ends a line like a line feed. -/
def oneBreak : Text → Text
  | [] => []
  | [c] => [if c = '\r' then '\n' else c]
  | c :: d :: rest =>
      if c = '\r' then
        if d = '\n' then oneBreak (d :: rest) else .ofChar '\n' :: oneBreak (d :: rest)
      else c :: oneBreak (d :: rest)

def parse (t : Text) : Except Fault Document :=
  (wholeText.run (Cursor.start (oneBreak t))).map fun (root, s) => ⟨root, s.anchors⟩

/-- Enough for every node on the way from the root, and for every name on it. -/
def steps (t : Text) : Nat := Nat.pow (t.length + 2) 3

/-- What a text denotes; null if nothing stands in it. -/
def load (t : Text) : Except Fault Setting := do
  let document ← parse t
  document.value (steps t)

end BlockWire.Yaml
