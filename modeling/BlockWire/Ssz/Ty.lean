/- # The types of the consensus data

The types that have a JSON shape, and `shapeless` for one that has none. A list or
a vector of `uint 8` is a byte sequence and takes the shape of one. -/
import BlockWire.Text.CodePoint

namespace BlockWire

set_option autoImplicit false

inductive Ty where
  | uint (bits : Nat)
  | boolean
  | byteVector (length : Nat)
  | byteList (limit : Nat)
  | bitvector (length : Nat)
  | bitlist (limit : Nat)
  | vector (element : Ty) (length : Nat)
  | list (element : Ty) (limit : Nat)
  | container (name : Text) (fields : List (Text × Ty))
  | shapeless (name : Text)

namespace Ty

def isByte : Ty → Bool
  | .uint 8 => true
  | _ => false

/-- The length of a byte vector, for what has to be one. -/
def fixedBytes? : Ty → Option Nat
  | .byteVector length => some length
  | _ => none

/-- The fields of a container. -/
def fields : Ty → List (Text × Ty)
  | .container _ fields => fields
  | _ => []

def bracketedName (outer inner : Text) (size : Nat) : Text :=
  outer ++ "[" ++ inner ++ ", " ++ Text.ofNat size ++ "]"

/-- The name of a type in messages. Byte sequences and bitfields are named without
their size. -/
def name : Ty → Text
  | .uint bits => "uint" ++ Text.ofNat bits
  | .boolean => "boolean"
  | .byteVector _ => "SpecialByteVectorView"
  | .byteList _ => "SpecialByteListView"
  | .bitvector _ => "SpecialBitvectorView"
  | .bitlist _ => "SpecialBitlistView"
  | .vector element length => bracketedName "Vector" element.name length
  | .list element limit => bracketedName "List" element.name limit
  | .container name _ => name
  | .shapeless name => name

/-- A type holds types only as the element of a sequence or as the fields of a container, so
an induction has one case with hypotheses for each of the two. -/
@[elab_as_elim] theorem induction {motive : Ty → Prop} (uint : ∀ bits, motive (.uint bits))
    (boolean : motive .boolean) (byteVector : ∀ length, motive (.byteVector length))
    (byteList : ∀ limit, motive (.byteList limit))
    (bitvector : ∀ length, motive (.bitvector length))
    (bitlist : ∀ limit, motive (.bitlist limit))
    (vector : ∀ element length, motive element → motive (.vector element length))
    (list : ∀ element limit, motive element → motive (.list element limit))
    (container : ∀ name fields, (∀ field ∈ fields, motive field.2) →
      motive (.container name fields))
    (shapeless : ∀ name, motive (.shapeless name)) (type : Ty) : motive type :=
  @Ty.rec motive (fun fields => ∀ field ∈ fields, motive field.2) (fun field => motive field.2)
    uint boolean byteVector byteList bitvector bitlist vector list container shapeless
    (fun _ mem => absurd mem List.not_mem_nil)
    (fun _ _ head tail => List.forall_mem_cons.2 ⟨head, tail⟩)
    (fun _ _ second => second) type

end Ty

end BlockWire
