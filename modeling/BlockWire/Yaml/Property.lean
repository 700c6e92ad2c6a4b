/- # Tags and anchors as they stand in a document

A tag is spelled in full between angle brackets, or as a handle and what follows it; a
directive may say what a handle stands for. Octets may be spelled by their numbers in
it. Names of anchors are of ASCII letters, digits, hyphens and underscores. -/
import BlockWire.Text.Utf8
import BlockWire.Yaml.Cursor

namespace BlockWire.Yaml

set_option autoImplicit false

def isNameMark (c : CodePoint) : Bool :=
  c.isDigit || (0x41 ≤ c.val && c.val ≤ 0x5A) || (0x61 ≤ c.val && c.val ≤ 0x7A) ||
    c = '-' || c = '_'

def tagMarks : Text := ";/?:@&=+$,.!~*'()[]%"

def isTagMark (c : CodePoint) : Bool := isNameMark c || tagMarks.contains c

/-- A name that is not empty. -/
def takeName : Read Text := do
  let name ← takeWhile isNameMark
  if name.isEmpty then malformed
  return name

/-! ## Tags -/

/-- The octets that a row of numbers spells, each behind a percent sign, and the rest. -/
def numberedOctets? : Text → Option (Octets × Text)
  | mark :: high :: low :: rest =>
      if mark = '%' then do
        let octet ← Hex.decode [high, low]
        let (octets, left) ← numberedOctets? rest
        some (octet ++ octets, left)
      else some ([], mark :: high :: low :: rest)
  | t => if t.contains (.ofChar '%') then none else some ([], t)

/-- A text with its numbered octets read as UTF-8. -/
def unnumbered? : Nat → Text → Option Text
  | 0, _ => none
  | _, [] => some []
  | fuel + 1, c :: rest =>
      if c = '%' then do
        let (octets, left) ← numberedOctets? (c :: rest)
        let t ← (Utf8.decode octets).toOption
        (t ++ ·) <$> unnumbered? fuel left
      else (c :: ·) <$> unnumbered? fuel rest

/-- The marks of a tag, one at least. -/
def takeTagMarks : Read Text := do
  let marks ← takeWhile isTagMark
  if marks.isEmpty then malformed
  demand (unnumbered? (marks.length + 1) marks)

/-- A handle: an exclamation mark alone, or a name between two. -/
def takeHandle : Read Text := do
  if !(← get).looksAt '!' then malformed
  forward 1
  if (← get).looksAt ' ' then return "!"
  let name ← takeWhile isNameMark
  if !(← get).looksAt '!' then malformed
  forward 1
  return (.ofChar '!' :: name) ++ [.ofChar '!']

/-- A tag, spelled out. -/
def takeTag : Read Text := do
  let behind := (← get).rest.drop 1
  if behind.head? = some (.ofChar '<') then
    forward 2
    let tag ← takeTagMarks
    if !(← get).looksAt '>' then malformed
    forward 1
    return tag
  else if endsWord behind then
    forward 1
    return Tag.bare
  else
    let hasHandle := (behind.takeWhile (!isSpace ·)).contains (.ofChar '!')
    let handle ← if hasHandle then takeHandle else do
      forward 1
      pure "!"
    let front ← demand ((← get).handles.lookup handle)
    return front ++ (← takeTagMarks)

/-! ## Anchors -/

/-- A property of the node behind it. -/
inductive Property where
  | anchor (name : Text)
  | tag (name : Text)

def property? : Read (Option Property) := do
  let s ← get
  if s.looksAt '&' then
    forward 1
    let name ← takeName
    modify fun s => { s with names := name :: s.names }
    return some (.anchor name)
  else if s.looksAt '!' then return some (.tag (← takeTag))
  else return none

/-- Keeps a node under its name, and gives the name for it. -/
def keep (name : Text) (node : Node) : Read Node := do
  modify fun s => { s with anchors := (name, node) :: s.anchors }
  return .named name

/-- A name that stands for a node. It may be that of a node not yet at its end. -/
def takeReference : Read Node := do
  forward 1
  let name ← takeName
  if !(← get).names.contains name then malformed
  return .named name

/-! ## Directives -/

/-- A number of a version. It is read as any whole number is. -/
def versionPart : Read PUnit := do
  let digits ← takeWhile CodePoint.isDigit
  if digits.isEmpty then malformed
  match Numeral.readWhole 10 digits with
  | .ok _ => return
  | .error fault => throw (.number fault)

def directive : Read PUnit := do
  forward 1
  let name ← takeName
  skipSpaces
  if name = "YAML" then
    versionPart
    if !(← get).looksAt '.' then malformed
    forward 1
    versionPart
  else if name = "TAG" then
    let handle ← takeHandle
    skipSpaces
    let front ← takeTagMarks
    modify fun s => { s with handles := (handle, front) :: s.handles }
  let _ ← takeWhile (!isBreak ·)

end BlockWire.Yaml
