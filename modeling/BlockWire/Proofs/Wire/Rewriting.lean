/- # What denotes something can be written again

A value that was read has no key twice, and if it denotes something at a supported type
then its strings are digits and its keys are names, so it has no half of a surrogate pair
and no more levels than the type. It is therefore read back from what it is written as
(`readable_of_denotes`), however it was spelled when it was read. -/
import BlockWire.Proofs.Json.Levels
import BlockWire.Proofs.Wire.Writing

namespace BlockWire.Wire

set_option autoImplicit false

theorem exists_of_denotesEach {element : Ty} {items : List Json} {values : List Value}
    (each : DenotesEach element items values) :
    ∀ item ∈ items, ∃ value, Denotes element item value := by
  induction items generalizing values with
  | nil => simp
  | cons item rest ih =>
      cases each with
      | cons head tail => exact List.forall_mem_cons.2 ⟨⟨_, head⟩, ih tail⟩

/-- Under the name of each field there is something that denotes a value of its type. -/
theorem exists_of_denotesFields {fields : List (Text × Ty)} {members : Keyed Json}
    {values : List (Text × Value)} (each : DenotesFields fields members values) :
    ∀ field ∈ fields, ∃ j value, Keyed.get? members field.1 = some j ∧
      Denotes field.2 j value := by
  induction fields generalizing values with
  | nil => simp
  | cons field rest ih =>
      cases each with
      | cons found head tail => exact List.forall_mem_cons.2 ⟨⟨_, _, found, head⟩, ih tail⟩

theorem unpaired_decimal {digits : Text} (decimal : ∀ c ∈ digits, c.isDigit = true) :
    Json.Unpaired digits := Json.unpaired_of_plain (Json.graphic_of_decimal decimal).plain

theorem unpaired_spelled {digits : Text} {octets : Octets} (spelled : Hex.Spells digits octets) :
    Json.Unpaired (hexMark ++ digits) := unpaired_hex spelled.isDigit

theorem readable_items {element : Ty} {items : List Json} {values : List Value} {depth n : Nat}
    (formed : Json.Formed n (.arr items)) (each : DenotesEach element items values)
    (readable : ∀ n j v, Json.Formed n j → Denotes element j v → Json.Readable depth j) :
    Json.Readable (depth + 1) (.arr items) := by
  cases formed with
  | arr formedEach =>
      apply Json.Readable.arr
      intro item mem
      obtain ⟨value, denoted⟩ := exists_of_denotesEach each item mem
      exact readable _ item value (formedEach item mem) denoted

/-- An object whose keys are declared is readable if what is under each of them is. -/
theorem readable_members {fields : List (Text × Ty)} {members : Keyed Json} {n : Nat}
    (formed : Json.Formed n (.obj members))
    (plain : ∀ field ∈ fields, Ty.isPlainName field.1 = true)
    (known : ∀ key ∈ Keyed.keys members, key ∈ fields.map Prod.fst)
    (readable : ∀ field ∈ fields, ∀ n j, Json.Formed n j →
      Keyed.get? members field.1 = some j → Json.Readable field.2.levels j) :
    Json.Readable (Ty.fieldLevels fields + 1) (.obj members) := by
  cases formed with
  | obj distinct formedEach =>
      refine .obj distinct ?_ ?_
      · intro key mem
        obtain ⟨field, declared, rfl⟩ := List.mem_map.1 (known key mem)
        exact Json.unpaired_of_plain (Ty.noSurrogate_of_isPlainName (plain field declared))
      · intro member mem
        obtain ⟨field, declared, same⟩ := List.mem_map.1 (known member.1 (List.mem_map_of_mem mem))
        have found := Keyed.get?_of_mem distinct mem
        rw [← same] at found
        have tight := readable field declared _ member.2 (formedEach member mem) found
        exact tight.mono (Ty.levels_le_fieldLevels declared)

/-- What was read and denotes something at a supported type is read back from its text, with
the levels that the type has. -/
theorem readable_of_denotes {type : Ty} {n : Nat} {j : Json} {v : Value}
    (supported : type.isSupported = true) (formed : Json.Formed n j) (denoted : Denotes type j v) :
    Json.Readable type.levels j := by
  induction type using Ty.induction generalizing n j v with
  | uint bits =>
      cases denoted with
      | uint _ decimal _ => exact .str _ (unpaired_decimal decimal)
  | boolean =>
      cases denoted with
      | boolean b => exact .bool _ b
  | byteVector length =>
      cases denoted with
      | byteVector spelled => exact .str _ (unpaired_spelled spelled)
  | byteList limit =>
      cases denoted with
      | byteList spelled => exact .str _ (unpaired_spelled spelled)
  | bitvector length =>
      cases denoted with
      | bitvector spelled => exact .str _ (unpaired_spelled spelled)
  | bitlist limit =>
      cases denoted with
      | bitlist spelled => exact .str _ (unpaired_spelled spelled)
  | vector element length ih =>
      cases denoted with
      | byteSequenceVector _ spelled => exact .str _ (unpaired_spelled spelled)
      | vector _ _ each => exact readable_items formed each fun _ _ _ => ih supported
  | list element limit ih =>
      cases denoted with
      | byteSequenceList _ spelled => exact .str _ (unpaired_spelled spelled)
      | list _ _ each => exact readable_items formed each fun _ _ _ => ih supported
  | container name fields ih =>
      obtain ⟨-, inside⟩ := Ty.isSupported_container.1 supported
      cases denoted with
      | container keys each =>
          refine readable_members formed (fun field declared => (inside field declared).1)
            (fun key => (keys key).1) ?_
          intro field declared _ j formedField found
          obtain ⟨_, _, found', denotedField⟩ := exists_of_denotesFields each field declared
          obtain rfl := Option.some.inj (found.symm.trans found')
          exact ih field declared (inside field declared).2 formedField denotedField
  | shapeless name => cases denoted

end BlockWire.Wire
