/- # Writing JSON text

No blanks, and ASCII alone: what is not printable ASCII is escaped by number, an
astral code point as its surrogate pair.

In messages a value is shown in another form: a blank behind each comma and colon, texts
quoted, and the words for truth and absence with a capital. -/
import BlockWire.Json.Value
import BlockWire.Text.Quoted
import BlockWire.Text.Utf8

namespace BlockWire.Json

set_option autoImplicit false

def unitEscape (c : CodePoint) : Text := "\\u" ++ Hex.padded 4 c.val

def escaped (c : CodePoint) : Text :=
  if c = '"' then "\\\""
  else if c = '\\' then "\\\\"
  else if c = '\n' then "\\n"
  else if c = '\r' then "\\r"
  else if c = '\t' then "\\t"
  else if c.val = 8 then "\\b"
  else if c.val = 12 then "\\f"
  else if 0x20 ≤ c.val ∧ c.val < 0x7F then [c]
  else if c.val < 0x10000 then unitEscape c
  else unitEscape c.toPair.1 ++ unitEscape c.toPair.2

def printString (t : Text) : Text := "\"" ++ t.flatMap escaped ++ "\""

/-- A number without end is written as a word that no reader here takes. -/
def printFloat : Binary64 → Text
  | .infinite false => "Infinity"
  | .infinite true => "-Infinity"
  | .nan => "NaN"
  | x => x.display

/-- Parts between brackets, parted by commas. -/
def bracketed (left right : Text) (parts : List Text) : Text :=
  left ++ Text.join "," parts ++ right

mutual

def print : Json → Text
  | .null => "null"
  | .bool true => "true"
  | .bool false => "false"
  | .int n => Text.ofInt n
  | .float x => printFloat x
  | .str t => printString t
  | .arr items => bracketed "[" "]" (printItems items)
  | .obj members => bracketed "\x7b" "\x7d" (printMembers members)

def printItems : List Json → List Text
  | [] => []
  | item :: rest => print item :: printItems rest

def printMembers : List (Text × Json) → List Text
  | [] => []
  | (key, value) :: rest => (printString key ++ ":" ++ print value) :: printMembers rest

end

/-- The written form as octets. -/
def encode (value : Json) : Octets := Utf8.encode value.print

/-! ## In messages -/

mutual

def display : Json → Text
  | .null => "None"
  | .bool true => "True"
  | .bool false => "False"
  | .int n => Text.ofInt n
  | .float x => x.display
  | .str t => Text.quoted t
  | .arr items => "[" ++ Text.join ", " (displayItems items) ++ "]"
  | .obj members => "\x7b" ++ Text.join ", " (displayMembers members) ++ "\x7d"

def displayItems : List Json → List Text
  | [] => []
  | item :: rest => display item :: displayItems rest

def displayMembers : List (Text × Json) → List Text
  | [] => []
  | (key, value) :: rest => (Text.quoted key ++ ": " ++ display value) :: displayMembers rest

end

end BlockWire.Json
