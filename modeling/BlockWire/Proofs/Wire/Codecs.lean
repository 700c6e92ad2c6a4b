/- # What a codec does with a document

A codec leaves a document that is JSON to its type (`decode_of_load`), and then refuses it
for what its value is, never as unreadable (`legible_of_load`). A value that is there is
read as the type reads it, whatever the codec does with a null (`fromJson_eq_some`). -/
import BlockWire.Proofs.Wire.Reading
import BlockWire.Proofs.Wire.Refusals

namespace BlockWire

set_option autoImplicit false

theorem Wire.fromJson_null (type : Ty) (v : Value) : Wire.fromJson type .null ≠ .ok v := by
  intro read
  cases (Wire.fromJson_eq_ok type .null v).1 read

namespace Codec

theorem loadValue_eq_ok {d : Document} {j : Json} : loadValue d = .ok j ↔ Json.load d = .ok j :=
  mapError_eq_ok

variable {codec : Codec}

theorem fromJson_eq_some {j : Json} {v : Value} :
    codec.fromJson j = .ok (some v) ↔ Wire.fromJson codec.type j = .ok v := by
  unfold fromJson
  split
  next null =>
    rw [Bool.and_eq_true] at null
    cases j <;> simp [isNull] at null
    simp [Wire.fromJson_null]
  · rw [map_eq_ok]
    simp

/-- A codec that takes no null gives nothing but values. -/
theorem exists_value_of_fromJson (strict : codec.takesNull = false) {j : Json}
    {entry : Option Value} (read : codec.fromJson j = .ok entry) : ∃ v, entry = some v := by
  simp only [fromJson, strict, Bool.false_and, Bool.false_eq_true, if_false, map_eq_ok] at read
  obtain ⟨v, -, rfl⟩ := read
  exact ⟨v, rfl⟩

/-- Entries that are there are read one by one. -/
theorem entries_eq_some {items : List Json} {values : List Value} :
    Wire.entries codec.fromJson items = .ok (values.map some) ↔
      List.Forall₂ (fun j v => Wire.fromJson codec.type j = .ok v) items values := by
  rw [Wire.entries_eq_ok, List.forall₂_map_right_iff]
  simp only [fromJson_eq_some]

theorem decode_of_load (codec : Codec) {d : Document} {v : Json} (loaded : Json.load d = .ok v) :
    codec.decode d = codec.fromJson v ∧ codec.decodeList d = codec.listFromJson v := by
  rw [decode, decodeList, loadValue_eq_ok.2 loaded]
  exact ⟨rfl, rfl⟩

/-- Whatever else is wrong with a document that is JSON, it is not unreadable. -/
theorem legible_of_load (codec : Codec) {d : Document} {v : Json} (loaded : Json.load d = .ok v) :
    Refuses Refusal.Legible (codec.decode d) ∧ Refuses Refusal.Legible (codec.decodeList d) := by
  have legible := Wire.fromJson_legible codec.type
  obtain ⟨single, list⟩ := codec.decode_of_load loaded
  rw [single, list]
  exact ⟨fromJson_refuses legible v, listFromJson_refuses ofValues_legible legible v⟩

end Codec

end BlockWire
