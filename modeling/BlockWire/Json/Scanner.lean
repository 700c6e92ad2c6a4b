/- # Reading JSON

A document comes as octets or as text, which may hold surrogates. Octets are read in the
encoding they show; a text that begins with a byte order mark is refused, since octets
would have lost theirs.

Every step of the scan takes the text that is left and gives a value and what is left behind
it, so the place of a fault is the text left there.

* `scanString` reads the inside of a string. Two escapes that spell a surrogate
  pair are one code point; surrogates that stand unescaped never join.
* `items` reads what stands between brackets, for whatever an item is.
* `scanWith` reads one value, given how to read the values inside it; `scanValue`
  ties the knot as many times as values may nest.
* `load` reads a whole document. -/
import BlockWire.Json.Fault
import BlockWire.Json.Value
import BlockWire.Hex

namespace BlockWire

set_option autoImplicit false

inductive Document where
  | octets (content : Octets)
  | text (content : Text)

namespace Json

abbrev Scan (ε α : Type) := Text → Except ε (α × Text)

def isBlank (c : CodePoint) : Bool := c = ' ' || c = '\t' || c = '\n' || c = '\r'

def skipBlanks (t : Text) : Text := t.dropWhile isBlank

/-! ## Strings -/

/-- The code point of an escape of one letter. -/
def simpleEscape? (c : CodePoint) : Option CodePoint :=
  if c = '"' ∨ c = '\\' ∨ c = '/' then some c
  else if c = 'b' then some ⟨8, by decide⟩
  else if c = 'f' then some ⟨12, by decide⟩
  else if c = 'n' then some '\n'
  else if c = 'r' then some '\r'
  else if c = 't' then some '\t'
  else none

/-- Four hex digits, with at least one code point behind them. -/
def fourDigits? (t : Text) : Option CodePoint :=
  if (t.drop 4).isEmpty then none else (Hex.value? (t.take 4)).map .ofNat

/-- The low surrogate that the next escape spells, if it spells one. -/
def lowEscape? (t : Text) : Option CodePoint :=
  match Text.after? "\\u" t with
  | none => none
  | some rest =>
      match fourDigits? rest with
      | some c => if c.isLowSurrogate then some c else none
      | none => none

/-- The code point and the length of a `\u` escape, counted behind the `u`. -/
def unicodeEscape? (t : Text) : Option (CodePoint × Nat) :=
  match fourDigits? t with
  | none => none
  | some c =>
      match if c.isHighSurrogate then lowEscape? (t.drop 4) else none with
      | some low => some (.ofPair c low, 10)
      | none => some (c, 4)

/-- The inside of a string and what is left behind its closing quote. `opening` is
the text from the opening quote on; `skip` code points belong to an escape that
has been read. -/
def stringBody (opening : Text) : Nat → Scan (Fault Text) Text
  | _, [] => .error (.located .unterminated opening)
  | skip + 1, _ :: rest => stringBody opening skip rest
  | 0, c :: rest =>
      if c = '"' then .ok ([], rest)
      else if c = '\\' then
        match rest with
        | [] => .error (.located .unterminated opening)
        | e :: behind =>
            if e = 'u' then
              match unicodeEscape? behind with
              | some (x, length) => do
                  let (body, left) ← stringBody opening (length + 1) rest
                  .ok (x :: body, left)
              | none => .error (.located .unicodeEscape rest)
            else
              match simpleEscape? e with
              | some x => do
                  let (body, left) ← stringBody opening 1 rest
                  .ok (x :: body, left)
              | none => .error (.located .escape (c :: rest))
      else if c.val < 0x20 then .error (.located .control (c :: rest))
      else do
        let (body, left) ← stringBody opening 0 rest
        .ok (c :: body, left)

/-- A string, from its opening quote on. -/
def scanString : Scan (Fault Text) Text
  | [] => .error (.located .value [])
  | quote :: rest => stringBody (quote :: rest) 0 rest

/-! ## Items between brackets -/

section Items

variable {ε α : Type} (item : Scan ε α) (close : CodePoint) (unparted : Text → ε)

/-- Items parted by commas up to `close`, at most `fuel` of them. -/
def itemsWithin : Nat → Scan ε (List α)
  | 0, t => .error (unparted t)
  | fuel + 1, t => do
      let (x, left) ← item t
      match skipBlanks left with
      | [] => .error (unparted [])
      | c :: rest =>
          if c = close then .ok ([x], rest)
          else if c = ',' then do
            let (xs, left) ← itemsWithin fuel (skipBlanks rest)
            .ok (x :: xs, left)
          else .error (unparted (c :: rest))

/-- What stands behind an opening bracket, up to `close`. An item takes at least
one code point, so the text is long enough to count them. -/
def items (t : Text) : Except ε (List α × Text) :=
  let inside := skipBlanks t
  match inside with
  | [] => itemsWithin item close unparted 1 []
  | c :: rest =>
      if c = close then .ok ([], rest)
      else itemsWithin item close unparted inside.length inside

end Items

/-! ## Values -/

def words : List (Text × Json) := [("null", .null), ("true", .bool true), ("false", .bool false)]

/-- Words that other notations take for numbers. -/
def constants : List Text := ["NaN", "Infinity", "-Infinity"]

def scanNumber (t : Text) : Except (Fault Text) (Json × Text) :=
  match Numeral.scan? t with
  | none => .error (.located .value t)
  | some (n, left) =>
      if !n.isWhole then .ok (.float n.toBinary64, left)
      else if Text.digitLimit < n.whole.length then .error (.digits n.whole.length)
      else .ok (.int n.toInt, left)

def scanAtom (t : Text) : Except (Fault Text) (Json × Text) :=
  match words.findSome? fun word => (Text.after? word.1 t).map fun left => (word.2, left) with
  | some found => .ok found
  | none =>
      match constants.find? fun name => (Text.after? name t).isSome with
      | some name => .error (.constant name)
      | none => scanNumber t

/-- A key, a colon and a value. -/
def scanMember (value : Scan (Fault Text) Json) : Scan (Fault Text) (Text × Json)
  | [] => .error (.located .propertyName [])
  | c :: rest =>
      if c = '"' then do
        let (key, left) ← scanString (c :: rest)
        match skipBlanks left with
        | [] => .error (.located .colon [])
        | d :: behind =>
            if d = ':' then do
              let (x, left) ← value (skipBlanks behind)
              .ok ((key, x), left)
            else .error (.located .colon (d :: behind))
      else .error (.located .propertyName (c :: rest))

def comma (t : Text) : Fault Text := .located .comma t

/-- One value; `nested` reads the values inside it, where there may be any. -/
def scanWith (nested : Option (Scan (Fault Text) Json)) : Scan (Fault Text) Json
  | [] => .error (.located .value [])
  | c :: rest =>
      if c = '"' then do
        let (body, left) ← scanString (c :: rest)
        .ok (.str body, left)
      else if c = '{' then
        match nested with
        | none => .error .tooDeep
        | some value => do
            let (members, left) ← items (scanMember value) '}' comma rest
            .ok (.obj (Keyed.ofPairs members), left)
      else if c = '[' then
        match nested with
        | none => .error .tooDeep
        | some value => do
            let (values, left) ← items value ']' comma rest
            .ok (.arr values, left)
      else scanAtom (c :: rest)

/-- One value with at most so many arrays and objects inside one another. -/
def scanValue : Nat → Scan (Fault Text) Json
  | 0 => scanWith none
  | depth + 1 => scanWith (some (scanValue depth))

/-- A text that is one value and blanks around it. -/
def scanDocument (t : Text) : Except (Fault Text) Json := do
  let (value, left) ← scanValue depthLimit (skipBlanks t)
  match skipBlanks left with
  | [] => .ok value
  | c :: rest => .error (.located .extra (c :: rest))

/-- Reads a text, with the places of faults counted in it. -/
def parse (t : Text) : Except (Fault Place) Json :=
  (scanDocument t).mapError (Fault.map (Place.of t))

/-! ## Documents -/

inductive LoadFault where
  | encoding (fault : Encoding.Fault)
  | json (fault : Fault Place)
deriving DecidableEq

def LoadFault.message : LoadFault → Text
  | .encoding fault => fault.message
  | .json fault => fault.message

def startsWithMark (t : Text) : Bool := t.head? == some .byteOrderMark

def load : Document → Except LoadFault Json
  | .octets content => do
      let text ← (Encoding.decode content).mapError .encoding
      (parse text).mapError .json
  | .text content =>
      if startsWithMark content then .error (.json (.located .mark (Place.of content content)))
      else (parse content).mapError .json

end Json

end BlockWire
