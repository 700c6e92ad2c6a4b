/- # Codecs

A codec reads and writes one type. What it does with a null is its own choice: a
plain codec reads nothing there and leaves it to the caller whether that will do, a
codec of fixed bytes finds a value missing.

The list forms are permissive in the same way: a null list is empty, and a null
entry is nothing if the codec says so. -/
import BlockWire.Wire.Shape

namespace BlockWire

set_option autoImplicit false

structure Codec where
  type : Ty
  takesNull : Bool

/-- Why a type is no type of fixed bytes. -/
structure NotFixedBytes where
  type : Text

namespace Codec

def plain (type : Ty) : Codec := ⟨type, true⟩

/-- The codec of so many octets. -/
def ofLength (length : Nat) : Codec := ⟨.byteVector length, false⟩

def fixedBytes (type : Ty) : Except NotFixedBytes Codec :=
  match type.fixedBytes? with
  | some length => .ok (.ofLength length)
  | none => .error ⟨type.name⟩

/-- Both kinds of codec show themselves alike. -/
def display (c : Codec) : Text := "ViewCodec(" ++ c.type.name ++ ")"

def displayList (c : Codec) : Text := "ListCodec(" ++ c.display ++ ")"

def loadValue (d : Document) : Except Refusal Json :=
  (Json.load d).mapError fun fault => .invalid (.unreadable fault)

def isNull : Json → Bool
  | .null => true
  | _ => false

def fromJson (c : Codec) (j : Json) : Except Refusal (Option Value) :=
  if c.takesNull && isNull j then .ok none else some <$> Wire.fromJson c.type j

def decode (c : Codec) (d : Document) : Except Refusal (Option Value) := do
  let j ← loadValue d
  c.fromJson j

/-- Nothing has no JSON shape. -/
def absentName : Text := "NoneType"

def toJson : Option Value → Except Refusal Json
  | some value => .ok (Wire.toJson value)
  | none => .error (.unsupported absentName)

def encode (value : Value) : Octets := (Wire.toJson value).encode

/-! ## Lists -/

def listFromJson (c : Codec) : Json → Except Refusal (List (Option Value))
  | .null => .ok []
  | j => do
      let items ← Wire.arrayFromJson j
      Wire.entries c.fromJson items

def decodeList (c : Codec) (d : Document) : Except Refusal (List (Option Value)) := do
  let j ← loadValue d
  c.listFromJson j

def entriesToJson : List (Option Value) → Except Refusal (List Json)
  | [] => .ok []
  | entry :: rest => do
      let j ← toJson entry
      let js ← entriesToJson rest
      .ok (j :: js)

def encodeEntries (entries : List (Option Value)) : Except Refusal Octets := do
  let js ← entriesToJson entries
  .ok (Json.arr js).encode

/-- Writes a list in which nothing is absent. -/
def encodeList (values : List Value) : Octets := (Json.arr (values.map Wire.toJson)).encode

end Codec

end BlockWire
