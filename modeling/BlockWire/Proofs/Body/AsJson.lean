/- # A body as one JSON value

A body is written field by field and joined, or walked as a whole and written at once. Both
give the same octets (`encode?_eq_encode_toJson`), since each field writes a fitting value
as the walk does and joining adds nothing.

Reading a body from a value that was read as JSON already comes to the same as reading
it from the document (`decode_agrees_with_ofJson`). The value is written first and then
split, so it counts that whatever is read as a body can be written again, and that graffiti
is written in the one spelling that it is read from. -/
import BlockWire.Proofs.Body.Formatting
import BlockWire.Proofs.Body.RoundTrip
import BlockWire.Proofs.Wire.Rewriting

namespace BlockWire.Body

set_option autoImplicit false

variable {preset : Preset}

/-! ## Written at once -/

/-- A fitting body is a record of a fitting value for each field. -/
theorem exists_record {b : Value} (fits : Value.Fits (type preset) b) :
    ∃ val : Field → Value, b = .record (order.map fun field => (field.name, val field)) ∧
      ∀ field : Field, Value.Fits (field.type preset) (val field) := by
  rw [type_eq] at fits
  cases fits with
  | container each =>
      obtain ⟨val, rfl, fitsEach⟩ := exists_values nodup_names each
      exact ⟨val, rfl, fun field => fitsEach field (mem_order field)⟩

theorem toJson_record (val : Field → Value) :
    toJson (.record (order.map fun field => (field.name, val field))) =
      .obj (order.map fun field => (field.name, Wire.toJson (val field))) := by
  rw [toJson, Wire.toJson, Wire.fieldsToJson_eq_map, List.map_map]
  rfl

/-- Fields that are written one by one are the members of the whole, each written. -/
theorem written_eq {val : Field → Value}
    (fits : ∀ field : Field, Value.Fits (field.type preset) (val field)) :
    (order.map fun field => (field.name, field.write (val field))) =
      (order.map fun field => (field.name, Wire.toJson (val field))).map
        RawFields.encodeMember := by
  rw [List.map_map]
  refine List.map_congr_left fun field _ => ?_
  rw [Field.write_eq_encode (fits field)]
  rfl

/-- Writing the fields of a fitting body one by one and joining them in the declared order
gives the octets of the one value that the whole body is written as. -/
theorem encode?_eq_encode_toJson (preset : Preset) (b : Value) (fits : Value.Fits (type preset) b) :
    encode? preset b = some (toJson b).encode := by
  obtain ⟨val, rfl, fitsEach⟩ := exists_record fits
  rw [encode?_record, written_eq fitsEach, RawFields.join_encodeMember, toJson_record]

theorem encode?_eq_encode_toJson_sampleBody :
    Value.Fits (type .minimal) sampleBody ∧
      encode? .minimal sampleBody = some (toJson sampleBody).encode :=
  ⟨fits_sampleBody, encode?_eq_encode_toJson .minimal sampleBody fits_sampleBody⟩

/-! ## Read from a value -/

/-- What a body is given for a field that is there. -/
theorem get?_withEmptyLists_of_found {members : Keyed Json} {field : Field} {j : Json}
    (found : Keyed.get? members field.name = some j) :
    Keyed.get? (withEmptyLists members) field.name = some (field.presented j) := by
  rw [get?_withEmptyLists, filled, found, presented_eq, Option.getD_some]
  split <;> rfl

theorem presented_of_ne_null (field : Field) {j : Json} (present : j ≠ .null) :
    field.presented j = j := by
  have same : nullAsEmpty j = j := by
    cases j with
    | null => exact absurd rfl present
    | _ => rfl
  rw [presented_eq, same, ite_self]

/-- What a field takes for a value of its type can be written again, whether or not it is a
null in place of a list. -/
theorem readable_of_presented {field : Field} {n : Nat} {j : Json} {v : Value}
    (formed : Json.Formed n j)
    (read : Wire.fromJson (field.type preset) (field.presented j) = .ok v) :
    Json.Readable (field.type preset).levels j := by
  by_cases absent : j = .null
  · rw [absent]
    exact .null _
  · rw [presented_of_ne_null field absent, Wire.fromJson_eq_ok] at read
    exact Wire.readable_of_denotes (field_isSupported preset field).2 formed read

/-- An object that is read as a body can be written again. -/
theorem readable_of_fromJson {members : Keyed Json} {n : Nat} {b : Value}
    (formed : Json.Formed n (.obj members))
    (known : ∀ key ∈ Keyed.keys members, key ∈ fieldNames preset)
    (read : Wire.fromJson (type preset) (.obj (withEmptyLists members)) = .ok b) :
    Json.Readable (type preset).levels (.obj members) := by
  obtain ⟨-, val, each, -⟩ := fromJson_type_eq_ok.1 read
  rw [fieldNames, declared_eq] at known
  rw [type_eq, Ty.levels]
  apply Wire.readable_members formed
  · rw [List.forall_mem_map]
    exact fun field _ => (field_isSupported preset field).1
  · exact known
  · rw [List.forall_mem_map]
    intro field _ _ j formedField stands
    obtain ⟨_, found, readField⟩ := each field
    rw [get?_withEmptyLists_of_found stands] at found
    obtain rfl := Option.some.inj found
    exact readable_of_presented formedField readField

/-- What a field of graffiti is read from is written in the literal spelling. -/
theorem isLiteral_encode {j : Json} {v : Value} (read : Wire.fromJson Schema.bytes32 j = .ok v) :
    IsLiteral j.encode := by
  cases (Wire.fromJson_eq_ok _ _ _).1 read with
  | @byteVector _ digits _ spelled exact =>
      exact ⟨digits, exact, spelled.isDigit, (Graffiti.literal_eq_encode spelled.isDigit).symm⟩

/-- An object that can be written and that is read as a body is still read as it when it has
been written. -/
theorem ofJson_of_fromJson {members : Keyed Json} {b : Value}
    (readable : Json.Readable Json.depthLimit (.obj members))
    (known : ∀ key ∈ Keyed.keys members, key ∈ fieldNames preset)
    (read : Wire.fromJson (type preset) (.obj (withEmptyLists members)) = .ok b) :
    ofJson preset (.obj members) = ⟨[], .ok b⟩ := by
  have parted := RawFields.split_encode (readable.mono (Nat.le_succ _))
  have literal : HasLiteralGraffiti (members.map RawFields.encodeMember) := by
    obtain ⟨-, val, each, -⟩ := fromJson_type_eq_ok.1 read
    obtain ⟨j, found, readGraffiti⟩ := each .graffiti
    -- Graffiti is no list, so the type is given what stands there.
    rw [get?_withEmptyLists] at found
    have stands : Keyed.get? members "graffiti" = some j := found
    have raws := Keyed.get?_mapValues Json.encode members "graffiti"
    rw [stands, Option.map_some] at raws
    exact ⟨j.encode, raws, isLiteral_encode readGraffiti⟩
  have loaded := Json.load_encode readable
  exact decode_of_outcome ((decode_of_load parted loaded).2 ⟨literal, known, read⟩)

/-- The value that a fitting body is written as is read as that body. -/
theorem ofJson_toJson {b : Value} (fits : Value.Fits (type preset) b) :
    ofJson preset (toJson b) = ⟨[], .ok b⟩ := by
  have readable := (Wire.readable_toJson (type_isSupported preset) fits).mono
    (levels_type_le preset)
  obtain ⟨val, rfl, fitsEach⟩ := exists_record fits
  have shape := toJson_record val
  have keys := keys_map order fun field => Wire.toJson (val field)
  have known : ∀ key ∈ Keyed.keys (order.map fun field => (field.name, Wire.toJson (val field))),
      key ∈ fieldNames preset := by
    rw [keys, names_eq]
    exact fun key mem => mem
  rw [toJson] at shape ⊢
  rw [shape] at readable ⊢
  refine ofJson_of_fromJson readable known (fromJson_type_eq_ok.2 ⟨known_withEmptyLists known,
    val, fun field => ⟨Wire.toJson (val field), ?_, ?_⟩, rfl⟩)
  · have found := get?_map nodup_names (fun field => Wire.toJson (val field)) (mem_order field)
    rw [get?_withEmptyLists_of_found found, presented_toJson]
  · rw [Wire.fromJson_eq_ok]
    exact Wire.denotes_toJson (field_isSupported preset field).2 (fitsEach field)

/-- A document that is read as a body, whose values do not nest deeper than reading can
follow, is read as JSON, and from that value the same body is read. Each body is read back
from the value that it is written as. -/
theorem decode_agrees_with_ofJson (preset : Preset) :
    (∀ (d : Document) (t : Text) (depth : Nat) (b : Value), RawFields.text d = .ok t →
      depth ≤ Json.depthLimit → Json.NestsWithin depth t → (decode preset d).outcome = .ok b →
        ∃ j, Json.load d = .ok j ∧ ofJson preset j = ⟨[], .ok b⟩) ∧
    ∀ b, Value.Fits (type preset) b → ofJson preset (toJson b) = ⟨[], .ok b⟩ := by
  refine ⟨?_, fun b fits => ofJson_toJson fits⟩
  intro d t depth b isText le nests read
  obtain ⟨raws, split, -⟩ := decode_outcome_eq_ok.1 read
  obtain ⟨parted, -⟩ := RawFields.splitDeclared_eq_ok.1 split
  obtain ⟨members, loaded⟩ := RawFields.load_of_split isText le nests parted
  obtain ⟨-, known, whole⟩ := (decode_of_load parted loaded).1 read
  have readable := readable_of_fromJson (Json.load_formed loaded) known whole
  exact ⟨_, loaded, ofJson_of_fromJson (readable.mono (levels_type_le preset)) known whole⟩

theorem decode_agrees_with_ofJson_quiet :
    RawFields.text (quiet true) = .ok (quietText true) ∧ 400 ≤ Json.depthLimit ∧
      Json.NestsWithin 400 (quietText true) ∧
      (∃ b j, (decode .minimal (quiet true)).outcome = .ok b ∧ Json.load (quiet true) = .ok j ∧
        ofJson .minimal j = ⟨[], .ok b⟩) ∧
      Value.Fits (type .minimal) sampleBody ∧
      ofJson .minimal (toJson sampleBody) = ⟨[], .ok sampleBody⟩ := by
  have isText : RawFields.text (quiet true) = .ok (quietText true) :=
    RawFields.text_encode (by decide +kernel)
  have nests : Json.NestsWithin 400 (quietText true) := by
    intro failed
    have read : (Json.scanValue 400 (Json.skipBlanks (quietText true))).isOk = true := by
      decide +kernel
    rw [failed] at read
    exact absurd read (by decide)
  have accepted : (decode .minimal (quiet true)).outcome.isOk = true := by decide +kernel
  obtain ⟨b, read⟩ := exists_of_isOk accepted
  obtain ⟨readFirst, written⟩ := decode_agrees_with_ofJson .minimal
  obtain ⟨j, loaded, same⟩ := readFirst _ _ 400 b isText (by decide) nests read
  exact ⟨isText, by decide, nests, ⟨b, j, read, loaded, same⟩, fits_sampleBody,
    written _ fits_sampleBody⟩

end BlockWire.Body
