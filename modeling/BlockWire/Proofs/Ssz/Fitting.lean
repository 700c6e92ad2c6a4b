/- # Deciding whether a value fits

`isFit` walks the type and the value together and decides `Fits` (`isFit_iff`), so
whether a given value fits is settled by evaluation. -/
import BlockWire.Ssz.Value

namespace BlockWire.Value

set_option autoImplicit false

mutual

def isFit : Ty → Value → Bool
  | .uint bits, .uint n => decide (n < Nat.pow 2 bits)
  | .boolean, .boolean _ => true
  | .byteVector length, .bytes octets => decide (octets.length = length)
  | .byteList limit, .bytes octets => decide (octets.length ≤ limit)
  | .bitvector length, .bitvector bits => decide (bits.length = length)
  | .bitlist limit, .bitlist bits => decide (bits.length ≤ limit)
  | .vector element length, .bytes octets =>
      element.isByte && decide (octets.length = length)
  | .list element limit, .bytes octets => element.isByte && decide (octets.length ≤ limit)
  | .vector element length, .seq items =>
      !element.isByte && (decide (items.length = length) && eachIsFit element items)
  | .list element limit, .seq items =>
      !element.isByte && (decide (items.length ≤ limit) && eachIsFit element items)
  | .container _ types, .record fields => fieldsAreFit types fields
  | _, _ => false

def eachIsFit (element : Ty) : List Value → Bool
  | [] => true
  | item :: rest => isFit element item && eachIsFit element rest

def fieldsAreFit : List (Text × Ty) → List (Text × Value) → Bool
  | [], [] => true
  | (name, type) :: types, (name', value) :: fields =>
      decide (name = name') && (isFit type value && fieldsAreFit types fields)
  | _, _ => false

end

theorem eachIsFit_iff {element : Ty} {items : List Value}
    (agree : ∀ v, isFit element v = true ↔ Fits element v) :
    eachIsFit element items = true ↔ FitsEach element items := by
  induction items with
  | nil => exact ⟨fun _ => .nil element, fun _ => rfl⟩
  | cons item rest ih =>
      rw [eachIsFit, Bool.and_eq_true, agree, ih]
      constructor
      · rintro ⟨head, tail⟩
        exact .cons head tail
      · rintro ⟨⟩
        exact ⟨‹_›, ‹_›⟩

theorem fieldsAreFit_iff {types : List (Text × Ty)} {fields : List (Text × Value)}
    (agree : ∀ type ∈ types, ∀ v, isFit type.2 v = true ↔ Fits type.2 v) :
    fieldsAreFit types fields = true ↔ FitsFields types fields := by
  induction types generalizing fields with
  | nil =>
      cases fields with
      | nil => exact ⟨fun _ => .nil, fun _ => rfl⟩
      | cons field rest =>
          constructor
          · simp [fieldsAreFit]
          · rintro ⟨⟩
  | cons type types ih =>
      obtain ⟨name, type⟩ := type
      obtain ⟨here, later⟩ := List.forall_mem_cons.1 agree
      cases fields with
      | nil =>
          constructor
          · simp [fieldsAreFit]
          · rintro ⟨⟩
      | cons field rest =>
          obtain ⟨name', value⟩ := field
          rw [fieldsAreFit, Bool.and_eq_true, Bool.and_eq_true, decide_eq_true_eq, here, ih later]
          constructor
          · rintro ⟨rfl, head, tail⟩
            exact .cons head tail
          · rintro ⟨⟩
            exact ⟨rfl, ‹_›, ‹_›⟩

/-- `isFit` decides whether a value fits. -/
theorem isFit_iff {type : Ty} {v : Value} : isFit type v = true ↔ Fits type v := by
  induction type using Ty.induction generalizing v with
  | uint bits =>
      cases v with
      | uint n =>
          rw [isFit, decide_eq_true_eq]
          exact ⟨.uint, fun | .uint inRange => inRange⟩
      | _ => exact ⟨nofun, nofun⟩
  | boolean =>
      cases v with
      | boolean b => exact ⟨fun _ => .boolean b, fun _ => rfl⟩
      | _ => exact ⟨nofun, nofun⟩
  | byteVector length =>
      cases v with
      | bytes octets =>
          rw [isFit, decide_eq_true_eq]
          exact ⟨.byteVector, fun | .byteVector exact => exact⟩
      | _ => exact ⟨nofun, nofun⟩
  | byteList limit =>
      cases v with
      | bytes octets =>
          rw [isFit, decide_eq_true_eq]
          exact ⟨.byteList, fun | .byteList within => within⟩
      | _ => exact ⟨nofun, nofun⟩
  | bitvector length =>
      cases v with
      | bitvector bits =>
          rw [isFit, decide_eq_true_eq]
          exact ⟨.bitvector, fun | .bitvector exact => exact⟩
      | _ => exact ⟨nofun, nofun⟩
  | bitlist limit =>
      cases v with
      | bitlist bits =>
          rw [isFit, decide_eq_true_eq]
          exact ⟨.bitlist, fun | .bitlist within => within⟩
      | _ => exact ⟨nofun, nofun⟩
  | vector element length ih =>
      cases v with
      | bytes octets =>
          rw [isFit, Bool.and_eq_true, decide_eq_true_eq]
          exact ⟨fun both => .byteSequenceVector both.1 both.2,
            fun | .byteSequenceVector isByte exact => ⟨isByte, exact⟩⟩
      | seq items =>
          rw [isFit, Bool.and_eq_true, Bool.and_eq_true, decide_eq_true_eq, Bool.not_eq_true',
            eachIsFit_iff fun v => ih]
          exact ⟨fun all => .vector all.1 all.2.1 all.2.2,
            fun | .vector notBytes exact each => ⟨notBytes, exact, each⟩⟩
      | _ => exact ⟨nofun, nofun⟩
  | list element limit ih =>
      cases v with
      | bytes octets =>
          rw [isFit, Bool.and_eq_true, decide_eq_true_eq]
          exact ⟨fun both => .byteSequenceList both.1 both.2,
            fun | .byteSequenceList isByte within => ⟨isByte, within⟩⟩
      | seq items =>
          rw [isFit, Bool.and_eq_true, Bool.and_eq_true, decide_eq_true_eq, Bool.not_eq_true',
            eachIsFit_iff fun v => ih]
          exact ⟨fun all => .list all.1 all.2.1 all.2.2,
            fun | .list notBytes within each => ⟨notBytes, within, each⟩⟩
      | _ => exact ⟨nofun, nofun⟩
  | container name types ih =>
      cases v with
      | record fields =>
          rw [isFit, fieldsAreFit_iff fun type mem v => ih type mem]
          exact ⟨.container, fun | .container each => each⟩
      | _ => exact ⟨nofun, nofun⟩
  | shapeless name => cases v <;> exact ⟨nofun, nofun⟩

instance (type : Ty) (v : Value) : Decidable (Fits type v) := decidable_of_iff _ isFit_iff

end BlockWire.Value
