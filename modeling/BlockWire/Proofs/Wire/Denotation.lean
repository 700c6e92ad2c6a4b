/- # The JSON shape of a type

`Denotes` says which JSON values have the shape of a type and which value each of
them denotes, rule by rule and without a reading order: it knows no first mismatch.
`Denotes.fits` says that nothing outside a type is ever denoted.

A list or vector of octets takes the hex rule in place of the array rule; every other
choice of a rule is by the type alone. -/
import BlockWire.Proofs.Keyed
import BlockWire.Proofs.Ssz.BitPositions
import BlockWire.Ssz.Value
import BlockWire.Proofs.Wire.HexString

namespace BlockWire.Wire

set_option autoImplicit false

mutual

inductive Denotes : Ty → Json → Value → Prop where
  | uint {bits : Nat} {digits : Text} (nonempty : digits ≠ [])
      (decimal : ∀ c ∈ digits, c.isDigit = true)
      (inRange : digits.digitsValue < Nat.pow 2 bits) :
      Denotes (.uint bits) (.str digits) (.uint digits.digitsValue)
  | boolean (b : Bool) : Denotes .boolean (.bool b) (.boolean b)
  | byteVector {length : Nat} {digits : Text} {octets : Octets}
      (spelled : Hex.Spells digits octets) (exact : digits.length = 2 * length) :
      Denotes (.byteVector length) (.str (hexMark ++ digits)) (.bytes octets)
  | byteList {limit : Nat} {digits : Text} {octets : Octets}
      (spelled : Hex.Spells digits octets) (within : digits.length ≤ 2 * limit) :
      Denotes (.byteList limit) (.str (hexMark ++ digits)) (.bytes octets)
  | bitvector {length : Nat} {digits : Text} {octets : Octets}
      (spelled : Hex.Spells digits octets) (exact : octets.length = (length + 7) / 8)
      (clear : ∀ i, length ≤ i → Bits.bitAt octets i = false) :
      Denotes (.bitvector length) (.str (hexMark ++ digits))
        (.bitvector (Bits.below octets length))
  | bitlist {limit k : Nat} {digits : Text} {octets : Octets} {last : UInt8}
      (spelled : Hex.Spells digits octets) (ends : octets.getLast? = some last)
      (nonzero : last ≠ 0) (delimiter : Bits.HighestAt octets k) (within : k ≤ limit) :
      Denotes (.bitlist limit) (.str (hexMark ++ digits)) (.bitlist (Bits.below octets k))
  | byteSequenceVector {element : Ty} {length : Nat} {digits : Text} {octets : Octets}
      (bytes : element.isByte = true) (spelled : Hex.Spells digits octets)
      (exact : digits.length = 2 * length) :
      Denotes (.vector element length) (.str (hexMark ++ digits)) (.bytes octets)
  | byteSequenceList {element : Ty} {limit : Nat} {digits : Text} {octets : Octets}
      (bytes : element.isByte = true) (spelled : Hex.Spells digits octets)
      (within : digits.length ≤ 2 * limit) :
      Denotes (.list element limit) (.str (hexMark ++ digits)) (.bytes octets)
  | vector {element : Ty} {length : Nat} {items : List Json} {values : List Value}
      (notBytes : element.isByte = false) (exact : items.length = length)
      (each : DenotesEach element items values) :
      Denotes (.vector element length) (.arr items) (.seq values)
  | list {element : Ty} {limit : Nat} {items : List Json} {values : List Value}
      (notBytes : element.isByte = false) (within : items.length ≤ limit)
      (each : DenotesEach element items values) :
      Denotes (.list element limit) (.arr items) (.seq values)
  | container {name : Text} {fields : List (Text × Ty)} {members : Keyed Json}
      {values : List (Text × Value)}
      (keys : ∀ key, key ∈ Keyed.keys members ↔ key ∈ fields.map Prod.fst)
      (each : DenotesFields fields members values) :
      Denotes (.container name fields) (.obj members) (.record values)

inductive DenotesEach : Ty → List Json → List Value → Prop where
  | nil (element : Ty) : DenotesEach element [] []
  | cons {element : Ty} {item : Json} {value : Value} {items : List Json} {values : List Value}
      (head : Denotes element item value) (tail : DenotesEach element items values) :
      DenotesEach element (item :: items) (value :: values)

inductive DenotesFields : List (Text × Ty) → Keyed Json → List (Text × Value) → Prop where
  | nil (members : Keyed Json) : DenotesFields [] members []
  | cons {name : Text} {type : Ty} {fields : List (Text × Ty)} {members : Keyed Json} {j : Json}
      {value : Value} {values : List (Text × Value)} (found : Keyed.get? members name = some j)
      (head : Denotes type j value) (tail : DenotesFields fields members values) :
      DenotesFields ((name, type) :: fields) members ((name, value) :: values)

end

/-- A JSON value has the shape of a type if it denotes something there. -/
def Conforms (type : Ty) (j : Json) : Prop := ∃ value, Denotes type j value

theorem denotesEach_iff {element : Ty} {items : List Json} {values : List Value} :
    DenotesEach element items values ↔ List.Forall₂ (Denotes element) items values := by
  induction items generalizing values with
  | nil =>
      rw [List.forall₂_nil_left_iff]
      constructor
      · rintro ⟨⟩
        rfl
      · rintro rfl
        exact .nil element
  | cons j rest ih =>
      rw [List.forall₂_cons_left_iff]
      constructor
      · intro each
        cases each with
        | cons head tail => exact ⟨_, _, head, ih.1 tail, rfl⟩
      · rintro ⟨v, vs, head, tail, rfl⟩
        exact .cons head (ih.2 tail)

/-- Fields that are denoted are there. -/
theorem DenotesFields.mem_keys {fields : List (Text × Ty)} {members : Keyed Json}
    {values : List (Text × Value)} (each : DenotesFields fields members values) {key : Text}
    (declared : key ∈ fields.map Prod.fst) : key ∈ Keyed.keys members := by
  induction fields generalizing values with
  | nil => simp at declared
  | cons field rest ih =>
      cases each with
      | cons found head tail =>
          rcases List.mem_cons.1 declared with rfl | later
          · exact Keyed.mem_keys_of_get? found
          · exact ih tail later

/-! ## What is denoted belongs to the type -/

theorem fitsEach_of_denotes {element : Ty} {items : List Json} {values : List Value}
    (belongs : ∀ j v, Denotes element j v → Value.Fits element v)
    (each : DenotesEach element items values) : Value.FitsEach element values := by
  induction items generalizing values with
  | nil =>
      cases each
      exact .nil element
  | cons j rest ih =>
      cases each with
      | cons head tail => exact .cons (belongs _ _ head) (ih tail)

theorem fitsFields_of_denotes {fields : List (Text × Ty)} {members : Keyed Json}
    {values : List (Text × Value)}
    (belongs : ∀ field ∈ fields, ∀ j v, Denotes field.2 j v → Value.Fits field.2 v)
    (each : DenotesFields fields members values) : Value.FitsFields fields values := by
  induction fields generalizing values with
  | nil =>
      cases each
      exact .nil
  | cons field rest ih =>
      obtain ⟨here, later⟩ := List.forall_mem_cons.1 belongs
      cases each with
      | cons found head tail => exact .cons (here _ _ head) (ih later tail)

theorem Denotes.fits {type : Ty} {j : Json} {v : Value} (denoted : Denotes type j v) :
    Value.Fits type v := by
  induction type using Ty.induction generalizing j v with
  | uint bits =>
      cases denoted with
      | uint _ _ inRange => exact .uint inRange
  | boolean =>
      cases denoted with
      | boolean b => exact .boolean b
  | byteVector length =>
      cases denoted with
      | byteVector spelled exact => exact .byteVector (by rw [spelled.length] at exact; omega)
  | byteList limit =>
      cases denoted with
      | byteList spelled within => exact .byteList (by rw [spelled.length] at within; omega)
  | bitvector length =>
      cases denoted with
      | bitvector => exact .bitvector (Bits.length_below _ _)
  | bitlist limit =>
      cases denoted with
      | bitlist _ _ _ _ within => exact .bitlist (by rwa [Bits.length_below])
  | vector element length ih =>
      cases denoted with
      | byteSequenceVector bytes spelled exact =>
          exact .byteSequenceVector bytes (by rw [spelled.length] at exact; omega)
      | vector notBytes exact each =>
          have same := (denotesEach_iff.1 each).length_eq
          exact .vector notBytes (same ▸ exact) (fitsEach_of_denotes (fun _ _ => ih) each)
  | list element limit ih =>
      cases denoted with
      | byteSequenceList bytes spelled within =>
          exact .byteSequenceList bytes (by rw [spelled.length] at within; omega)
      | list notBytes within each =>
          have same := (denotesEach_iff.1 each).length_eq
          exact .list notBytes (same ▸ within) (fitsEach_of_denotes (fun _ _ => ih) each)
  | container name fields ih =>
      cases denoted with
      | container _ each =>
          exact .container (fitsFields_of_denotes (fun field mem _ _ => ih field mem) each)
  | shapeless name => cases denoted

end BlockWire.Wire
