/- # Writing a block body

Each field is written by its own rule, one kind of field after the other, and the written
fields are joined in the order that the type declares them in. `toJson` walks the whole
value at once instead. -/
import BlockWire.Body.Failure
import BlockWire.Body.Fields

namespace BlockWire.Body

set_option autoImplicit false

def Field.write (field : Field) (value : Value) : Octets :=
  match field, value with
  | .graffiti, .bytes octets => Graffiti.encode octets
  | .operations _, .seq items => Codec.encodeList items
  | .commitments, .seq items => Codec.encodeList items
  | _, _ => Codec.encode value

/-- The fields in the order they are written in. -/
def writingOrder : List Field :=
  [.randaoReveal, .graffiti, .commitments] ++ Required.all.map .required ++
    Operations.all.map .operations

/-- The fields of a record under their names; none if one is not there. -/
def writeFields (values : Keyed Value) : List Field → Option (Keyed Octets)
  | [] => some []
  | field :: rest => do
      let value ← Keyed.get? values field.name
      let written ← writeFields values rest
      some ((field.name, field.write value) :: written)

/-- The written fields in the order of the names; none if one is not there. -/
def inOrder (written : Keyed Octets) : List Text → Option (List (Text × Octets))
  | [] => some []
  | name :: rest => do
      let raw ← Keyed.get? written name
      let ordered ← inOrder written rest
      some ((name, raw) :: ordered)

/-- The written form of a record that has all fields of a body. -/
def encode? (preset : Preset) : Value → Option Octets
  | .record values => do
      let written ← writeFields values writingOrder
      let ordered ← inOrder written (fieldNames preset)
      some (RawFields.join ordered)
  | _ => none

/-- The body as one JSON value. -/
def toJson (body : Value) : Json := Wire.toJson body

end BlockWire.Body
