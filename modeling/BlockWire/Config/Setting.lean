/- # Values in a configuration

Whatever a configuration file or a mapping can hold. A mapping's keys are values
themselves, so `null` and `10` can be keys.

`text` is how a value reads where a word is wanted: a text is itself. `display` is
how it shows inside another value, where a text is quoted.

A list or a mapping may hold itself. It is then `outer` where it stands again, and only
its brackets are shown there. -/
import BlockWire.Config.Calendar
import BlockWire.Json.Value
import BlockWire.Number.Numeral
import BlockWire.Text.Quoted

namespace BlockWire

set_option autoImplicit false

inductive Setting where
  | null
  | bool (b : Bool)
  | int (n : Int)
  | float (x : Binary64)
  | text (t : Text)
  | date (d : Date)
  | moment (m : Moment)
  | binary (octets : Octets)
  | list (items : List Setting)
  | pair (first second : Setting)
  | set (items : List Setting)
  | mapping (entries : List (Setting × Setting))
  | outer (isMapping : Bool)

namespace Setting

/-- Octets are quoted as text of their numbers, everything past ASCII escaped. -/
def displayOctets (octets : Octets) : Text :=
  let codes : Text := octets.map fun b => .ofNat b.toNat
  let quote := Text.quoteFor codes
  let escaped := codes.flatMap fun c =>
    if c.val < 0x7F then Text.shown quote c else Text.byNumber c.val
  "b" ++ quote :: escaped ++ [quote]

mutual

def display : Setting → Text
  | .null => "None"
  | .bool true => "True"
  | .bool false => "False"
  | .int n => Text.ofInt n
  | .float x => x.display
  | .text t => Text.quoted t
  | .date d => d.display
  | .moment m => m.display
  | .binary octets => displayOctets octets
  | .list items => "[" ++ Text.join ", " (displayItems items) ++ "]"
  | .pair first second => "(" ++ display first ++ ", " ++ display second ++ ")"
  | .set [] => "set()"
  | .set items => "\x7b" ++ Text.join ", " (displayItems items) ++ "\x7d"
  | .mapping entries => "\x7b" ++ Text.join ", " (displayEntries entries) ++ "\x7d"
  | .outer false => "[...]"
  | .outer true => "\x7b...\x7d"

def displayItems : List Setting → List Text
  | [] => []
  | item :: rest => display item :: displayItems rest

def displayEntries : List (Setting × Setting) → List Text
  | [] => []
  | (key, value) :: rest => (display key ++ ": " ++ display value) :: displayEntries rest

end

mutual

/-- Whether no whole number in a value is too long to show. -/
def isShowable : Setting → Bool
  | .int n => n.natAbs < Nat.pow 10 Text.digitLimit
  | .list items => areShowable items
  | .pair first second => isShowable first && isShowable second
  | .set items => areShowable items
  | .mapping entries => entriesShowable entries
  | _ => true

def areShowable : List Setting → Bool
  | [] => true
  | item :: rest => isShowable item && areShowable rest

def entriesShowable : List (Setting × Setting) → Bool
  | [] => true
  | (key, value) :: rest => isShowable key && isShowable value && entriesShowable rest

end

def toText : Setting → Text
  | .text t => t
  | .date d => d.text
  | .moment m => m.text
  | value => value.display

def typeName : Setting → Text
  | .null => "NoneType"
  | .bool _ => "bool"
  | .int _ => "int"
  | .float _ => "float"
  | .text _ => "str"
  | .date _ => "date"
  | .moment _ => "datetime"
  | .binary _ => "bytes"
  | .list _ => "list"
  | .pair _ _ => "tuple"
  | .set _ => "set"
  | .mapping _ => "dict"
  | .outer isMapping => if isMapping then "dict" else "list"

def isCollection : Setting → Bool
  | .list _ | .set _ | .mapping _ | .outer _ => true
  | _ => false

/-- Null, false, zero and everything empty. -/
def isVacant : Setting → Bool
  | .null => true
  | .bool b => !b
  | .int n => n == 0
  | .float (.finite _ m _) => m == 0
  | .float _ => false
  | .text t => t.isEmpty
  | .date _ => false
  | .moment _ => false
  | .binary octets => octets.isEmpty
  | .list items => items.isEmpty
  | .pair _ _ => false
  | .set items => items.isEmpty
  | .mapping entries => entries.isEmpty
  | .outer _ => false

mutual

def ofJson : Json → Setting
  | .null => .null
  | .bool b => .bool b
  | .int n => .int n
  | .float x => .float x
  | .str t => .text t
  | .arr items => .list (ofItems items)
  | .obj members => .mapping (ofMembers members)

def ofItems : List Json → List Setting
  | [] => []
  | item :: rest => ofJson item :: ofItems rest

def ofMembers : List (Text × Json) → List (Setting × Setting)
  | [] => []
  | (key, value) :: rest => (.text key, ofJson value) :: ofMembers rest

end

end Setting

end BlockWire
