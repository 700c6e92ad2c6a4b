/- # Scalars as they stand in a document

Plain, quoted and block scalars. A line break inside a plain or a quoted scalar
folds: alone it is a space, and of several the first is dropped. -/
import BlockWire.Yaml.Cursor
import BlockWire.Yaml.Timestamp

namespace BlockWire.Yaml

set_option autoImplicit false

/-- Where a scalar stands: `flow` between brackets, otherwise in a block whose lines
begin at `indent` or behind it; `oneLine` stops it at a line break. -/
structure Site where
  flow : Bool
  indent : Int
  oneLine : Bool

/-! ## Plain -/

def flowMarks : Text := ",[]\x7b\x7d"

/-- A colon that ends a key. -/
def colonEnds (flow : Bool) (rest : Text) : Bool :=
  endsWord rest || (flow && rest.head?.any flowMarks.contains)

/-- The code points of a plain scalar up to the next space. -/
def plainWord (flow : Bool) : Text → Text
  | [] => []
  | c :: rest =>
      if isSpace c || (c = ':' && colonEnds flow rest) ||
          (flow && (flowMarks.contains c || c = '?')) then []
      else c :: plainWord flow rest

/-- Spaces and breaks behind the first break, the breaks kept; nothing at a marker. -/
def plainBreaks : Nat → Text → Read (Option Text)
  | 0, breaks => return some breaks
  | fuel + 1, breaks => do
      if (← get).atMarker then return none
      skipSpaces
      let broken ← takeBreak
      if broken.isEmpty then return some breaks
      plainBreaks fuel (breaks ++ broken)

def folded (first breaks : Text) : Text :=
  if first ≠ "\n" then first ++ breaks else if breaks.isEmpty then " " else breaks

/-- What parts two words of a plain scalar; nothing if no word can follow. -/
def plainGap (oneLine : Bool) : Read Text := do
  let spaces ← takeWhile (· == .ofChar ' ')
  if (← peek?).any isBreak then
    if oneLine then return []
    let first ← takeBreak
    match ← plainBreaks ((← get).rest.length + 1) [] with
    | none => return []
    | some breaks => return folded first breaks
  else return spaces

def plainWords (site : Site) : Nat → Read Text
  | 0 => return []
  | fuel + 1 => do
      let word := plainWord site.flow (← get).rest
      if word.isEmpty then return []
      forward word.length
      let gap ← plainGap site.oneLine
      let s ← get
      if gap.isEmpty || s.looksAt '#' || (!site.flow && s.column < site.indent) then
        return word
      else if (plainWord site.flow s.rest).isEmpty then return word
      else
        let more ← plainWords site fuel
        return word ++ gap ++ more

def plain (site : Site) : Read Text := do
  let text ← plainWords site ((← get).rest.length + 1)
  if text.isEmpty then malformed
  return text

/-! ## Quoted -/

/-- Escapes of one letter in double quotes. -/
def escapes : List (CodePoint × Nat) :=
  [('0', 0), ('a', 7), ('b', 8), ('t', 9), ('\t', 9), ('n', 10), ('v', 11), ('f', 12), ('r', 13),
    ('e', 27), (' ', 0x20), ('"', 0x22), ('\\', 0x5C), ('/', 0x2F), ('N', 0x85), ('_', 0xA0),
    ('L', 0x2028), ('P', 0x2029)]

/-- Escapes by number and their digits. -/
def escapeWidths : List (CodePoint × Nat) := [('x', 2), ('u', 4), ('U', 8)]

/-- Breaks with the spaces around them, the breaks kept. -/
def quotedBreaks : Nat → Text → Read Text
  | 0, breaks => return breaks
  | fuel + 1, breaks => do
      let _ ← takeWhile isGap
      let broken ← takeBreak
      if broken.isEmpty then return breaks
      quotedBreaks fuel (breaks ++ broken)

def quotedGap : Read Text := do
  let spaces ← takeWhile isGap
  if (← peek?).any isBreak then
    let first ← takeBreak
    let breaks ← quotedBreaks ((← get).rest.length + 1) []
    return folded first breaks
  else return spaces

/-- What stands behind a backslash. -/
def escape : Read Text := do
  match ← peek? with
  | none => malformed
  | some c =>
      match escapes.lookup c, escapeWidths.lookup c with
      | some n, _ =>
          forward 1
          return [.ofNat n]
      | none, some width =>
          forward 1
          let digits := (← get).rest.take width
          if digits.length < width then malformed
          let n ← demand (Hex.value? digits)
          if 0x110000 ≤ n then throw (.escape n)
          forward width
          return [.ofNat n]
      | none, none =>
          if isBreak c then
            let _ ← takeBreak
            quotedBreaks ((← get).rest.length + 1) []
          else malformed

/-- The inside of quotes and the closing one. -/
def quotedBody (double : Bool) : Nat → Read Text
  | 0 => malformed
  | fuel + 1 => do
      match ← peek? with
      | none => malformed
      | some c =>
          if isSpace c then
            let gap ← quotedGap
            return gap ++ (← quotedBody double fuel)
          else if !double && c = '\'' then
            forward 1
            if (← get).looksAt '\'' then
              forward 1
              return [c] ++ (← quotedBody double fuel)
            else return []
          else if double && c = '"' then
            forward 1
            return []
          else if double && c = '\\' then
            forward 1
            let text ← escape
            return text ++ (← quotedBody double fuel)
          else
            forward 1
            return [c] ++ (← quotedBody double fuel)

def quoted : Read Text := do
  let double := (← get).looksAt '"'
  forward 1
  quotedBody double ((← get).rest.length + 1)

/-! ## Blocks -/

/-- What a block scalar keeps of its end: `some false` nothing, `some true` all. -/
structure BlockHeader where
  keep : Option Bool
  increment : Option Nat

def blockIndicator (h : BlockHeader) (c : CodePoint) : Option BlockHeader :=
  if c = '+' then some { h with keep := some true }
  else if c = '-' then some { h with keep := some false }
  else if c.isDigit ∧ c ≠ '0' then some { h with increment := some (c.val - 0x30) }
  else none

def blockHeader : Nat → BlockHeader → Read BlockHeader
  | 0, h => return h
  | fuel + 1, h => do
      match (← peek?).bind (blockIndicator h) with
      | none => return h
      | some h =>
          forward 1
          blockHeader fuel h

/-- Leading blank lines and the greatest column that their spaces reach. -/
def blockLead : Nat → Text → Nat → Read (Text × Nat)
  | 0, breaks, widest => return (breaks, widest)
  | fuel + 1, breaks, widest => do
      skipSpaces
      let widest := max widest (← get).column
      let broken ← takeBreak
      if broken.isEmpty then return (breaks, widest)
      blockLead fuel (breaks ++ broken) widest

/-- Spaces up to `indent`. -/
def blockSpaces (indent : Nat) : Read PUnit := do
  let s ← get
  forward ((s.rest.take (indent - s.column)).takeWhile (· == .ofChar ' ')).length

def blockBreaks (indent : Nat) : Nat → Text → Read Text
  | 0, breaks => return breaks
  | fuel + 1, breaks => do
      blockSpaces indent
      let broken ← takeBreak
      if broken.isEmpty then return breaks
      blockBreaks indent fuel (breaks ++ broken)

/-- The lines of a block, the break behind the last, and the blank lines behind that. -/
structure BlockText where
  text : Text
  last : Text
  blank : Text

def blockLines (fold : Bool) (indent : Nat) : Nat → Text → Read BlockText
  | 0, breaks => return ⟨[], [], breaks⟩
  | fuel + 1, breaks => do
      let s ← get
      if s.column ≠ indent ∨ s.rest.isEmpty then return ⟨[], [], breaks⟩
      let line ← takeWhile (!isBreak ·)
      let last ← takeBreak
      let blank ← blockBreaks indent ((← get).rest.length + 1) []
      let s ← get
      if s.column ≠ indent ∨ s.rest.isEmpty then return ⟨breaks ++ line, last, blank⟩
      -- a line that begins with a space, and the line before it, do not fold
      let folds := fold && last == "\n" && !line.head?.any isGap && !s.peek?.any isGap
      let between : Text := if folds then (if blank.isEmpty then " " else "") else last
      let more ← blockLines fold indent fuel blank
      return { more with text := breaks ++ line ++ between ++ more.text }

/-- A block scalar whose parent stands at `indent`. -/
def block (indent : Int) : Read Text := do
  let fold := (← get).looksAt '>'
  forward 1
  let header ← blockHeader 2 ⟨none, none⟩
  let _ ← takeWhile (!isBreak ·)
  let _ ← takeBreak
  let least := max 1 (indent + 1).toNat
  let fuel := (← get).rest.length + 1
  let body ← match header.increment with
    | none => do
        let (breaks, widest) ← blockLead fuel [] 0
        blockLines fold (max least widest) fuel breaks
    | some increment => do
        let breaks ← blockBreaks (least + increment - 1) fuel []
        blockLines fold (least + increment - 1) fuel breaks
  let last := if header.keep == some false then [] else body.last
  let blank := if header.keep == some true then body.blank else []
  return body.text ++ last ++ blank

end BlockWire.Yaml
