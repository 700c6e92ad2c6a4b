/- # How nodes are laid out

A node in a block ends where a line begins at its parent's column or before it; only
the dashes of a sequence that is a mapping's value may stand at the mapping's own
column. Brackets hold nodes whatever their columns.

Whether a node is a key is seen by reading ahead: it is one if a colon ends it on the
line where it begins. Every step spends fuel, and a document has more of it than
nodes. -/
import BlockWire.Yaml.Property
import BlockWire.Yaml.Scalar
import BlockWire.Yaml.Spelling

namespace BlockWire.Yaml

set_option autoImplicit false

def scalarNode (tag : Option Text) (isPlain : Bool) (t : Text) : Node :=
  .scalar (Tag.ofScalar tag isPlain t) t

/-- A node of which nothing is spelled but its properties. -/
def emptyNode (tag : Option Text) : Node := scalarNode tag true []

def listNode (tag : Option Text) (items : List Node) : Read Node :=
  return .sequence (← newNumber) (Tag.ofCollection tag .seq) items

def mappingNode (tag : Option Text) (entries : List Entry) : Read Node :=
  return .mapping (← newNumber) (Tag.ofCollection tag .map) entries

/-! ## Between brackets -/

/-- What ends an item or an entry. -/
def isFlowEnd (s : Cursor) : Bool := s.looksAt ',' || s.looksAt ']' || s.looksAt '}'

mutual

def flowNode : Nat → Option Text → Read Node
  | 0, _ => malformed
  | fuel + 1, tag => do
      skipToToken
      match ← property? with
      | some (.anchor name) => keep name (← flowNode fuel tag)
      | some (.tag name) => flowNode fuel (some name)
      | none =>
          let s ← get
          if s.looksAt '*' then takeReference
          else if s.looksAt '[' then
            forward 1
            listNode tag (← flowItems fuel)
          else if s.looksAt '{' then
            forward 1
            mappingNode tag (← flowEntries fuel)
          else if s.looksAt '"' || s.looksAt '\'' then
            return scalarNode tag false (← quoted)
          else if isFlowEnd s || s.looksAt ':' then return emptyNode tag
          else return scalarNode tag true (← plain ⟨true, 0, false⟩)

/-- A node, whether a mark says that it is a key, and what stands behind its colon. -/
def flowEntry : Nat → Read (Node × Bool × Option Node)
  | 0 => malformed
  | fuel + 1 => do
      let marked := (← get).looksAt '?'
      if marked then forward 1
      let key ← flowNode fuel none
      skipToToken
      if (← get).looksAt ':' then
        forward 1
        return (key, marked, some (← flowNode fuel none))
      else return (key, marked, none)

/-- An entry among items is a mapping of its own. -/
def flowItems : Nat → Read (List Node)
  | 0 => malformed
  | fuel + 1 => do
      skipToToken
      if (← get).looksAt ']' then
        forward 1
        return []
      let (key, marked, value) ← flowEntry fuel
      let item ←
        if marked || value.isSome then mappingNode none [(key, value.getD (emptyNode none))]
        else pure key
      skipToToken
      if (← get).looksAt ',' then forward 1
      else if !(← get).looksAt ']' then malformed
      return item :: (← flowItems fuel)

def flowEntries : Nat → Read (List Entry)
  | 0 => malformed
  | fuel + 1 => do
      skipToToken
      if (← get).looksAt '}' then
        forward 1
        return []
      let (key, _, value) ← flowEntry fuel
      skipToToken
      if (← get).looksAt ',' then forward 1
      else if !(← get).looksAt '}' then malformed
      return (key, value.getD (emptyNode none)) :: (← flowEntries fuel)

end

/-! ## In blocks -/

/-- A key that stands on one line, with its properties. Where they are all of it, the
colon may follow them. -/
def blockKey : Nat → Bool → Option Text → Read Node
  | 0, _, _ => malformed
  | fuel + 1, hasProperty, tag => do
      skipSpaces
      match ← property? with
      | some (.anchor name) => keep name (← blockKey fuel true tag)
      | some (.tag name) => blockKey fuel true (some name)
      | none =>
          let s ← get
          if s.looksAt '*' || s.looksAt '[' || s.looksAt '{' then flowNode (fuel + 1) tag
          else if s.looksAt '"' || s.looksAt '\'' then return scalarNode tag false (← quoted)
          else if hasProperty && s.indicates ':' then return emptyNode tag
          else return scalarNode tag true (← plain ⟨false, 0, true⟩)

/-- Whether a key begins here. -/
def beginsEntry (fuel : Nat) (s : Cursor) : Bool :=
  s.indicates '?' || s.indicates ':' ||
    match (do let _ ← blockKey fuel false none; skipSpaces : Read PUnit).run s with
    | .ok (_, after) => after.line == s.line && after.indicates ':'
    | .error _ => false

mutual

/-- A node whose parent stands at `indent`. -/
def blockNode : Nat → Int → Bool → Option Text → Read Node
  | 0, _, _, _ => malformed
  | fuel + 1, indent, dashesToo, tag => do
      skipToToken
      let s ← get
      let inside := indent < s.column || (dashesToo && indent == s.column && s.indicates '-')
      if s.atEnd || !inside then return emptyNode tag
      else if s.indicates '-' then listNode tag (← blockItems fuel s.column)
      else if beginsEntry fuel s then mappingNode tag (← blockEntries fuel s.column)
      else
        match ← property? with
        | some (.anchor name) => keep name (← blockNode fuel indent dashesToo tag)
        | some (.tag name) => blockNode fuel indent dashesToo (some name)
        | none =>
            if s.looksAt '|' || s.looksAt '>' then return scalarNode tag false (← block indent)
            else if s.looksAt '*' || s.looksAt '[' || s.looksAt '{' then flowNode fuel tag
            else if s.looksAt '"' || s.looksAt '\'' then return scalarNode tag false (← quoted)
            else return scalarNode tag true (← plain ⟨false, indent + 1, false⟩)

def blockItems : Nat → Nat → Read (List Node)
  | 0, _ => malformed
  | fuel + 1, column => do
      forward 1
      let item ← blockNode fuel column false none
      skipToToken
      let s ← get
      if !s.atEnd && s.column == column && s.indicates '-' then
        return item :: (← blockItems fuel column)
      else return [item]

def blockEntries : Nat → Nat → Read (List Entry)
  | 0, _ => malformed
  | fuel + 1, column => do
      let s ← get
      let key ←
        if s.indicates '?' then do
          forward 1
          let key ← blockNode fuel column true none
          skipToToken
          pure key
        else if s.indicates ':' then pure (emptyNode none)
        else do
          let key ← blockKey fuel false none
          skipSpaces
          pure key
      let value ←
        if (← get).indicates ':' then do
          forward 1
          blockNode fuel column true none
        else pure (emptyNode none)
      skipToToken
      let s ← get
      if !s.atEnd && s.column == column then
        return (key, value) :: (← blockEntries fuel column)
      else return [(key, value)]

end

/-! ## The whole text -/

/-- Directives, each on a line, before the document. -/
def takeDirectives : Nat → Read PUnit
  | 0 => return
  | fuel + 1 => do
      skipToToken
      let s ← get
      if s.column == 0 && s.looksAt '%' then
        directive
        takeDirectives fuel

/-- Marks of the end, as many as there are. -/
def skipEndMarks : Nat → Read PUnit
  | 0 => return
  | fuel + 1 => do
      skipToToken
      if (← get).atMarker && (← get).looksAt '.' then
        forward 3
        skipEndMarks fuel

/-- One document at most. -/
def wholeText : Read Node := do
  if (← get).looksAt .byteOrderMark then forward 1
  let size := (← get).rest.length
  takeDirectives (size + 1)
  if (← get).atMarker && (← get).looksAt '-' then forward 3
  let root ← blockNode (4 * size + 16) (-1) false none
  skipEndMarks (size + 1)
  if !(← get).rest.isEmpty then malformed
  return root

end BlockWire.Yaml
