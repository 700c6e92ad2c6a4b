/- # A place in a YAML document

Structure hangs on columns, so a cursor counts them, and lines too, since a key has
to stand on one line. A byte order mark takes no column. With the cursor go the count of
lists and mappings so far, the names that have been given, the nodes that have them, and
the handles that tags begin with.

Reading is a state over the cursor that can fail; nothing here reads more than it needs
to know what stands next. -/
import BlockWire.Yaml.Fault
import BlockWire.Yaml.Node

namespace BlockWire.Yaml

set_option autoImplicit false

structure Cursor where
  rest : Text
  line : Nat
  column : Nat
  count : Nat
  names : List Text
  anchors : Anchors
  handles : List (Text × Text)

abbrev Read := StateT Cursor (Except Fault)

def isBreak (c : CodePoint) : Bool :=
  c = '\n' || c = '\r' || c.val = 0x85 || c.val = 0x2028 || c.val = 0x2029

def isSpace (c : CodePoint) : Bool := c = ' ' || c = '\t' || isBreak c

/-- Nothing, or what ends a word. -/
def endsWord : Text → Bool
  | [] => true
  | c :: _ => isSpace c

namespace Cursor

def start (t : Text) : Cursor := ⟨t, 0, 0, 0, [], [], [("!", "!"), ("!!", Tag.coreMark)]⟩

def step (s : Cursor) : Cursor :=
  match s.rest with
  | [] => s
  | c :: rest =>
      if isBreak c then { s with rest := rest, line := s.line + 1, column := 0 }
      else if c = .byteOrderMark then { s with rest := rest }
      else { s with rest := rest, column := s.column + 1 }

def steps : Nat → Cursor → Cursor
  | 0, s => s
  | n + 1, s => steps n s.step

def peek? (s : Cursor) : Option CodePoint := s.rest.head?

def looksAt (s : Cursor) (c : CodePoint) : Bool := s.peek? == some c

/-- The next is `c` and stands alone. -/
def indicates (s : Cursor) (c : CodePoint) : Bool :=
  s.looksAt c && endsWord (s.rest.drop 1)

def atMarker (s : Cursor) : Bool :=
  s.column == 0 && (s.rest.take 3 == "---" || s.rest.take 3 == "...") &&
    endsWord (s.rest.drop 3)

def atEnd (s : Cursor) : Bool := s.rest.isEmpty || s.atMarker

end Cursor

def forward (n : Nat) : Read PUnit := modify (Cursor.steps n)

def peek? : Read (Option CodePoint) := return (← get).peek?

def malformed {α : Type} : Read α := throw .malformed

/-- The number of a new list or mapping. -/
def newNumber : Read Nat := do
  let s ← get
  set { s with count := s.count + 1 }
  return s.count

/-- What a partial step gives; a document where it gives nothing is malformed. -/
def demand {α : Type} : Option α → Read α
  | some a => return a
  | none => malformed

/-- Takes what satisfies `p` and stands on one line. -/
def takeWhile (p : CodePoint → Bool) : Read Text := do
  let taken := (← get).rest.takeWhile p
  forward taken.length
  return taken

def skipSpaces : Read PUnit := do
  let _ ← takeWhile (· == .ofChar ' ')

/-- A line break as it counts in text, or nothing. -/
def takeBreak : Read Text := do
  match ← peek? with
  | none => return []
  | some c =>
      if !isBreak c then return []
      forward 1
      return if c.val = 0x2028 ∨ c.val = 0x2029 then [c] else "\n"

/-- Passes over spaces, comments and line breaks, at most `fuel` lines of them. -/
def skipLines : Nat → Read PUnit
  | 0 => return ⟨⟩
  | fuel + 1 => do
      skipSpaces
      if (← get).looksAt '#' then
        let _ ← takeWhile (!isBreak ·)
      let broken ← takeBreak
      if !broken.isEmpty then skipLines fuel

def skipToToken : Read PUnit := do skipLines ((← get).rest.length + 1)

end BlockWire.Yaml
