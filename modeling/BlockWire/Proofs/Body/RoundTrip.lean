/- # A body is read back from what it is written as

Each field reads back what it writes (`Field.read_write`), whatever stands beside it.
The written fields are joined under distinct names and split again as they were, so
the body is read back field by field (`decode_of_encode`), and nothing is logged. In which
order the fields are written does not matter (`encode?_record`). -/
import BlockWire.Body.Encode
import BlockWire.Proofs.Body.Order
import BlockWire.Proofs.RawFields.Join
import BlockWire.Proofs.Ssz.Fitting
import BlockWire.Proofs.Wire.RoundTrip

namespace BlockWire.Body

set_option autoImplicit false

variable {preset : Preset}

/-! ## One field -/

/-- Each field writes a value that fits as its JSON text. -/
theorem Field.write_eq_encode {field : Field} {v : Value}
    (fits : Value.Fits (field.type preset) v) : field.write v = (Wire.toJson v).encode := by
  cases field with
  | randaoReveal => rfl
  | graffiti =>
      cases fits with
      | byteVector exact => rfl
  | required which => rfl
  | operations which =>
      cases fits with
      | byteSequenceList bytes => simp [notBytes_codec] at bytes
      | list => exact (Codec.encode_seq _).symm
  | commitments =>
      cases fits with
      | byteSequenceList bytes => simp [commitment, Codec.ofLength, Ty.isByte] at bytes
      | list => exact (Codec.encode_seq _).symm

theorem presented_toJson (field : Field) (v : Value) :
    field.presented (Wire.toJson v) = Wire.toJson v := by
  have present : nullAsEmpty (Wire.toJson v) = Wire.toJson v := by cases v <;> rfl
  cases field with
  | operations which => exact present
  | commitments => exact present
  | _ => rfl

theorem readable_field {field : Field} {v : Value} (fits : Value.Fits (field.type preset) v) :
    Json.Readable Json.depthLimit (Wire.toJson v) :=
  (Wire.readable_toJson (field_isSupported preset field).2 fits).mono
    (levels_field_le preset field)

/-- What a field writes it reads back. -/
theorem Field.read_write {field : Field} {v : Value} (fits : Value.Fits (field.type preset) v) :
    field.read preset (field.write v) = .ok v := by
  have supported := (field_isSupported preset field).2
  rw [Field.read_eq_ok]
  constructor
  · rintro rfl
    cases fits with
    | @byteVector _ octets exact =>
        have written : Field.graffiti.write (.bytes octets) = Graffiti.encode octets := rfl
        rw [written, Graffiti.encode_eq_literal]
        refine ⟨_, ?_, (Wire.spells_encode octets).isDigit, rfl⟩
        rw [Wire.length_hex, exact]
  · refine ⟨Wire.toJson v, ?_, ?_⟩
    · rw [Field.write_eq_encode fits]
      exact Json.load_encode (readable_field fits)
    · rw [presented_toJson, Wire.fromJson_eq_ok]
      exact Wire.denotes_toJson supported fits

theorem whole_write {field : Field} {v : Value} (fits : Value.Fits (field.type preset) v) :
    RawFields.Whole (field.write v) := by
  rw [Field.write_eq_encode fits]
  exact RawFields.whole_encode (readable_field fits)

/-! ## All fields -/

/-- The values of a fitting record, by their fields. -/
theorem exists_values {fs : List Field} (distinct : (fs.map Field.name).Nodup)
    {values : List (Text × Value)}
    (each : Value.FitsFields (fs.map fun field => (field.name, field.type preset)) values) :
    ∃ val : Field → Value, values = fs.map (fun field => (field.name, val field)) ∧
      ∀ field ∈ fs, Value.Fits (field.type preset) (val field) := by
  induction fs generalizing values with
  | nil =>
      cases each
      exact ⟨fun _ => .boolean false, rfl, by simp⟩
  | cons field rest ih =>
      rw [List.map_cons, List.nodup_cons] at distinct
      cases each with
      | @cons _ _ v _ _ head tail =>
          obtain ⟨val, rfl, fits⟩ := ih distinct.2 tail
          -- The names are distinct, so the first field's value is in nobody's way.
          have other : ∀ g ∈ rest, g.name ≠ field.name := by
            intro g mem same
            exact distinct.1 (same ▸ List.mem_map_of_mem mem)
          refine ⟨fun g => if g.name = field.name then v else val g, ?_, ?_⟩
          · simp only [List.map_cons, if_true]
            congr 1
            refine List.map_congr_left fun g mem => ?_
            rw [if_neg (other g mem)]
          · refine List.forall_mem_cons.2 ⟨?_, fun g mem => ?_⟩
            · simp only [if_true]
              exact head
            · simp only [if_neg (other g mem)]
              exact fits g mem

theorem mem_writingOrder (field : Field) : field ∈ writingOrder := by
  cases field with
  | required which => cases which <;> simp [writingOrder, Required.all]
  | operations which => cases which <;> simp [writingOrder, Operations.all]
  | _ => simp [writingOrder]

theorem nodup_writingOrder : (writingOrder.map Field.name).Nodup := by decide +kernel

theorem writeFields_eq_some {values : Keyed Value} {fs : List Field} {val : Field → Value}
    (found : ∀ field ∈ fs, Keyed.get? values field.name = some (val field)) :
    writeFields values fs = some (fs.map fun field => (field.name, field.write (val field))) := by
  induction fs with
  | nil => rfl
  | cons field rest ih =>
      obtain ⟨here, later⟩ := List.forall_mem_cons.1 found
      rw [writeFields, here, ih later]
      rfl

theorem inOrder_eq_some {written : Keyed Octets} {fs : List Field} {raw : Field → Octets}
    (found : ∀ field ∈ fs, Keyed.get? written field.name = some (raw field)) :
    inOrder written (fs.map Field.name) = some (fs.map fun field => (field.name, raw field)) := by
  induction fs with
  | nil => rfl
  | cons field rest ih =>
      obtain ⟨here, later⟩ := List.forall_mem_cons.1 found
      rw [List.map_cons, inOrder, here, ih later]
      rfl

/-- However the fields are written, they are joined as the type declares them. -/
theorem encode?_record (preset : Preset) (val : Field → Value) :
    encode? preset (.record (order.map fun field => (field.name, val field))) =
      some (RawFields.join (order.map fun field => (field.name, field.write (val field)))) := by
  have written : writeFields (order.map fun field => (field.name, val field)) writingOrder =
      some (writingOrder.map fun field => (field.name, field.write (val field))) :=
    writeFields_eq_some fun field _ => get?_map nodup_names val (mem_order field)
  have ordered : inOrder (writingOrder.map fun field => (field.name, field.write (val field)))
      (order.map Field.name) = some (order.map fun field => (field.name, field.write (val field))) :=
    inOrder_eq_some fun field _ => get?_map nodup_writingOrder _ (mem_writingOrder field)
  rw [encode?, written, Option.bind_eq_bind, Option.bind_some, names_eq, ordered]
  rfl

/-- What is joined from the fields of a fitting body splits into them again. -/
theorem splitDeclared_join {val : Field → Value}
    (fits : ∀ field : Field, Value.Fits (field.type preset) (val field)) :
    RawFields.splitDeclared (fieldNames preset) (.octets (RawFields.join
        (order.map fun field => (field.name, field.write (val field))))) =
      .ok (order.map fun field => (field.name, field.write (val field))) := by
  have keys := keys_map order fun field => field.write (val field)
  refine RawFields.splitDeclared_eq_ok.2 ⟨RawFields.split_join ?_ ?_ ?_, ?_⟩
  · rw [keys]
    exact nodup_names
  · rw [keys, List.forall_mem_map]
    intro field _
    exact Json.unpaired_of_plain (Ty.noSurrogate_of_isPlainName (field_isSupported preset field).1)
  · rw [List.forall_mem_map]
    exact fun field _ => whole_write (fits field)
  · rw [keys, names_eq]
    exact fun key mem => mem

/-- A body that fits its type is written, and what is written is read as that body
without a record of anything. -/
theorem decode_of_encode (preset : Preset) (b : Value) (fits : Value.Fits (type preset) b) :
    ∃ raw, encode? preset b = some raw ∧ decode preset (.octets raw) = ⟨[], .ok b⟩ := by
  rw [type_eq] at fits
  cases fits with
  | container each =>
      obtain ⟨val, rfl, fitsEach⟩ := exists_values nodup_names each
      have fitsAll := fun field => fitsEach field (mem_order field)
      refine ⟨_, encode?_record preset val, decode_of_reads (splitDeclared_join fitsAll) ?_⟩
      intro field
      rw [rawOf, get?_map nodup_names (fun field => field.write (val field)) (mem_order field),
        Option.getD_some]
      exact Field.read_write (fitsAll field)

/-- An attestation with bits that fill no whole octet. -/
def sampleAttestation : Value :=
  .record
    [("aggregation_bits", .bitlist [true, false, false]),
      ("data", Value.initial Schema.attestationData), ("signature", Value.initial Schema.bytes96),
      ("committee_bits", .bitvector [true, false, false, true])]

def sampleEntries : List (Text × Value) :=
  [("attestations", .seq [sampleAttestation]),
    ("voluntary_exits", .seq [Value.initial Schema.signedVoluntaryExit]),
    ("blob_kzg_commitments", .seq [.bytes (List.replicate 48 255)])]

/-- A body with entries in lists of each kind, and the rest as it begins. -/
def sampleBody : Value :=
  match Value.initial (type .minimal) with
  | .record values => .record (Keyed.ofPairs (values ++ sampleEntries))
  | v => v

theorem fits_sampleBody : Value.Fits (type .minimal) sampleBody := by decide +kernel

theorem decode_of_encode_sampleBody :
    Value.Fits (type .minimal) sampleBody ∧
      ∃ raw, encode? .minimal sampleBody = some raw ∧
        decode .minimal (.octets raw) = ⟨[], .ok sampleBody⟩ := by
  have fits : Value.Fits (type .minimal) sampleBody := by decide +kernel
  exact ⟨fits, decode_of_encode .minimal sampleBody fits⟩

end BlockWire.Body
