/- # What a scalar denotes

The type of a scalar is told by its tag. One without a tag is told by its shape if it is
plain: one of the words for absence and truth, a number, a timestamp, the marks of a
merge and of a value, or text. Any other scalar is text.

What the tag asks for is then read from the text, whatever its shape. -/
import BlockWire.Base64
import BlockWire.Yaml.Node
import BlockWire.Yaml.Timestamp

namespace BlockWire.Yaml

set_option autoImplicit false

def nullWords : List Text := ["", "~", "null", "Null", "NULL"]

def trueWords : List Text :=
  ["yes", "Yes", "YES", "true", "True", "TRUE", "on", "On", "ON"]

def falseWords : List Text :=
  ["no", "No", "NO", "false", "False", "FALSE", "off", "Off", "OFF"]

/-- Marks that no plain scalar can be. -/
def reservedMarks : List Text := ["!", "&", "*"]

namespace Tag

/-- A line feed alone has no shape. -/
def ofShape (t : Text) : Tag :=
  let shape := shapeOf t
  if t = "\n" then .str
  else if nullWords.contains shape then .null
  else if trueWords.contains shape || falseWords.contains shape then .bool
  else if isPointed shape then .float
  else if isWhole shape then .int
  else if isTimestamp shape then .timestamp
  else if shape = "<<" then .merge
  else if shape = "=" then .value
  else if reservedMarks.contains shape then .unknown
  else .str

/-- The tag of a scalar as it is spelled. -/
def ofScalar (spelled : Option Text) (plain : Bool) (t : Text) : Tag :=
  match spelled with
  | none => if plain then ofShape t else .str
  | some tag => if tag = bare then ofShape t else ofText tag

/-- The tag of a list or a mapping that is a `default` without one. -/
def ofCollection (spelled : Option Text) (default : Tag) : Tag :=
  match spelled with
  | none => default
  | some tag => if tag = bare then default else ofText tag

end Tag

def truthValue (t : Text) : Except Fault Bool :=
  let lower := t.toLower
  if trueWords.contains lower then .ok true
  else if falseWords.contains lower then .ok false
  else .error (.notTruth lower)

/-- Whether a float is spelled with the word for what is no number. -/
def isNanWord (t : Text) : Bool := (Numeral.scanSign (strip t).toLower).2 == ".nan"

def isAscii (t : Text) : Bool := t.all fun c => c.val < 0x80

def binaryValue (t : Text) : Except Fault Setting :=
  match if isAscii t then Base64.decode t else none with
  | some octets => .ok (.binary octets)
  | none => .error .malformed

/-- The mark of a value denotes itself; that of a merge is nothing outside a mapping. -/
def scalarValue (tag : Tag) (t : Text) : Except Fault Setting :=
  match tag with
  | .null => .ok .null
  | .bool => .bool <$> truthValue t
  | .int => .int <$> wholeValue t
  | .float => .float <$> floatValue t
  | .binary => binaryValue t
  | .timestamp => timestampValue t
  | .str | .value => .ok (.text t)
  | _ => .error .malformed

end BlockWire.Yaml
