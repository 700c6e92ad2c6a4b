/- # Values of the consensus types

A value does not carry its type. `Fits` says which values a type has: numbers in
range, exact lengths and lengths within limits, the fields of a container in their
order. -/
import BlockWire.Ssz.Ty

namespace BlockWire

set_option autoImplicit false

inductive Value where
  | uint (n : Nat)
  | boolean (b : Bool)
  | bytes (octets : Octets)
  | bitvector (bits : List Bool)
  | bitlist (bits : List Bool)
  | seq (items : List Value)
  | record (fields : List (Text × Value))

namespace Value

mutual

inductive Fits : Ty → Value → Prop where
  | uint {bits n : Nat} (inRange : n < Nat.pow 2 bits) : Fits (.uint bits) (.uint n)
  | boolean (b : Bool) : Fits .boolean (.boolean b)
  | byteVector {length : Nat} {octets : Octets} (exact : octets.length = length) :
      Fits (.byteVector length) (.bytes octets)
  | byteList {limit : Nat} {octets : Octets} (within : octets.length ≤ limit) :
      Fits (.byteList limit) (.bytes octets)
  | bitvector {length : Nat} {bits : List Bool} (exact : bits.length = length) :
      Fits (.bitvector length) (.bitvector bits)
  | bitlist {limit : Nat} {bits : List Bool} (within : bits.length ≤ limit) :
      Fits (.bitlist limit) (.bitlist bits)
  | byteSequenceVector {element : Ty} {length : Nat} {octets : Octets}
      (bytes : element.isByte = true) (exact : octets.length = length) :
      Fits (.vector element length) (.bytes octets)
  | byteSequenceList {element : Ty} {limit : Nat} {octets : Octets}
      (bytes : element.isByte = true) (within : octets.length ≤ limit) :
      Fits (.list element limit) (.bytes octets)
  | vector {element : Ty} {length : Nat} {items : List Value}
      (notBytes : element.isByte = false) (exact : items.length = length)
      (each : FitsEach element items) : Fits (.vector element length) (.seq items)
  | list {element : Ty} {limit : Nat} {items : List Value}
      (notBytes : element.isByte = false) (within : items.length ≤ limit)
      (each : FitsEach element items) : Fits (.list element limit) (.seq items)
  | container {name : Text} {types : List (Text × Ty)} {fields : List (Text × Value)}
      (each : FitsFields types fields) : Fits (.container name types) (.record fields)

inductive FitsEach : Ty → List Value → Prop where
  | nil (element : Ty) : FitsEach element []
  | cons {element : Ty} {item : Value} {rest : List Value} (head : Fits element item)
      (tail : FitsEach element rest) : FitsEach element (item :: rest)

inductive FitsFields : List (Text × Ty) → List (Text × Value) → Prop where
  | nil : FitsFields [] []
  | cons {name : Text} {type : Ty} {value : Value} {types : List (Text × Ty)}
      {fields : List (Text × Value)} (head : Fits type value) (tail : FitsFields types fields) :
      FitsFields ((name, type) :: types) ((name, value) :: fields)

end

mutual

/-- The value a type begins with: zeros, nothing in lists. A type without a JSON
shape has no value; the empty record stands in. -/
def initial : Ty → Value
  | .uint _ => .uint 0
  | .boolean => .boolean false
  | .byteVector length => .bytes (List.replicate length 0)
  | .byteList _ => .bytes []
  | .bitvector length => .bitvector (List.replicate length false)
  | .bitlist _ => .bitlist []
  | .vector element length =>
      if element.isByte then .bytes (List.replicate length 0)
      else .seq (List.replicate length (initial element))
  | .list element _ => if element.isByte then .bytes [] else .seq []
  | .container _ fields => .record (initialFields fields)
  | .shapeless _ => .record []

def initialFields : List (Text × Ty) → List (Text × Value)
  | [] => []
  | (name, type) :: rest => (name, initial type) :: initialFields rest

end

end Value

end BlockWire
