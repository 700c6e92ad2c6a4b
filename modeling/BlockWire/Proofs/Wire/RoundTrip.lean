/- # Every codec reads back what it writes

`decode_of_written`: at a supported type, whichever it is, the shape of each fitting value
is read back as that value, and so are its octets and those of a list of such values, by
a codec of the type. What a codec does with a null does not matter, since nothing is
written as one.

The octets of a value are read by way of JSON text, and a reader follows that for
`Json.depthLimit` levels. Beyond these the octets are refused for being too deep, which no
value of a type with at most so many levels is. Types nest without a bound, so there are values
that cannot be read back (`decode_encode_nested`). -/
import BlockWire.Proofs.Json.Levels
import BlockWire.Proofs.Ssz.Fitting
import BlockWire.Proofs.Wire.Codecs
import BlockWire.Proofs.Wire.Writing

namespace BlockWire.Codec

set_option autoImplicit false

/-- What octets are refused with that nest deeper than the reader follows. -/
def tooDeep : Refusal := .invalid (.unreadable (.json .tooDeep))

/-- A list of values as JSON. -/
def shapes (values : List Value) : Json := .arr (values.map Wire.toJson)

theorem entriesToJson_some (values : List Value) :
    entriesToJson (values.map some) = .ok (values.map Wire.toJson) := by
  induction values with
  | nil => rfl
  | cons v rest ih =>
      rw [List.map_cons, entriesToJson, ih]
      rfl

/-- Nothing is absent from a list of values, so it is written. -/
theorem encodeEntries_some (values : List Value) :
    encodeEntries (values.map some) = .ok (encodeList values) := by
  rw [encodeEntries, entriesToJson_some]
  rfl

/-- A list that is a value is written as its values are. -/
theorem encode_seq (values : List Value) : encode (.seq values) = encodeList values := by
  rw [encode, Wire.toJson, Wire.itemsToJson_eq_map]
  rfl

section

variable {codec : Codec} (supported : codec.type.isSupported = true)

include supported

theorem fromJson_toJson {v : Value} (fits : Value.Fits codec.type v) :
    Wire.fromJson codec.type (Wire.toJson v) = .ok v :=
  (Wire.fromJson_eq_ok _ _ _).2 (Wire.denotes_toJson supported fits)

theorem levels_toJson_le {v : Value} (fits : Value.Fits codec.type v) :
    (Wire.toJson v).levels ≤ codec.type.levels :=
  (Wire.readable_toJson supported fits).formed.levels_le

theorem listFromJson_shapes {values : List Value}
    (fits : ∀ v ∈ values, Value.Fits codec.type v) :
    codec.listFromJson (shapes values) = .ok (values.map some) := by
  have each : List.Forall₂ (fun j v => Wire.fromJson codec.type j = .ok v)
      (values.map Wire.toJson) values := by
    rw [List.forall₂_map_left_iff, List.forall₂_same]
    exact fun v mem => fromJson_toJson supported (fits v mem)
  have read := entries_eq_some.2 each
  simpa only [shapes, listFromJson, Wire.arrayFromJson, bind, Except.bind] using read

theorem readable_shapes {values : List Value} (fits : ∀ v ∈ values, Value.Fits codec.type v) :
    Json.Readable (codec.type.levels + 1) (shapes values) := by
  refine .arr (List.forall_mem_map.2 fun v mem => ?_)
  exact Wire.readable_toJson supported (fits v mem)

end

/-- What is decoded from written octets is settled by the JSON value they were written
from and its levels. -/
theorem decode_encode_eq (codec : Codec) {n : Nat} {j : Json} (readable : Json.Readable n j) :
    codec.decode (.octets j.encode) =
        (if j.levels ≤ Json.depthLimit then codec.fromJson j else .error tooDeep) ∧
      codec.decodeList (.octets j.encode) =
        (if j.levels ≤ Json.depthLimit then codec.listFromJson j else .error tooDeep) := by
  have loaded := Json.load_encode_eq readable
  by_cases within : j.levels ≤ Json.depthLimit
  · simp only [if_pos within] at loaded ⊢
    exact codec.decode_of_load loaded
  · simp only [if_neg within] at loaded ⊢
    rw [decode, decodeList, loadValue, loaded]
    exact ⟨rfl, rfl⟩

/-- A codec of a supported type reads a fitting value back from its shape and from its
octets, and a list of fitting values from theirs, as long as they nest no deeper than the
reader follows. -/
theorem decode_of_written (codec : Codec) (supported : codec.type.isSupported = true) :
    (∀ v, Value.Fits codec.type v →
      toJson (some v) = .ok (Wire.toJson v) ∧
      Wire.fromJson codec.type (Wire.toJson v) = .ok v ∧
      (Wire.toJson v).levels ≤ codec.type.levels ∧
      codec.decode (.octets (encode v)) =
        if (Wire.toJson v).levels ≤ Json.depthLimit then .ok (some v) else .error tooDeep) ∧
    ∀ values : List Value, (∀ v ∈ values, Value.Fits codec.type v) →
      encodeEntries (values.map some) = .ok (encodeList values) ∧
      (shapes values).levels ≤ codec.type.levels + 1 ∧
      codec.decodeList (.octets (encodeList values)) =
        if (shapes values).levels ≤ Json.depthLimit then .ok (values.map some)
        else .error tooDeep := by
  constructor
  · intro v fits
    have read := fromJson_toJson supported fits
    have decoded := (codec.decode_encode_eq (Wire.readable_toJson supported fits)).1
    rw [fromJson_eq_some.2 read] at decoded
    exact ⟨rfl, read, levels_toJson_le supported fits, decoded⟩
  · intro values fits
    have readable := readable_shapes supported fits
    have decoded := (codec.decode_encode_eq readable).2
    rw [listFromJson_shapes supported fits] at decoded
    exact ⟨encodeEntries_some values, readable.formed.levels_le, decoded⟩

/-- Lists of lists, the innermost without entries. -/
def nested : Nat → Ty
  | 0 => .list .boolean 1
  | n + 1 => .list (nested n) 1

def nestedValue : Nat → Value
  | 0 => .seq []
  | n + 1 => .seq [nestedValue n]

theorem isSupported_nested (n : Nat) : (nested n).isSupported = true := by
  induction n with
  | zero => rfl
  | succ n ih => simpa [nested, Ty.isSupported] using ih

theorem isByte_nested (n : Nat) : (nested n).isByte = false := by cases n <;> rfl

theorem fits_nested (n : Nat) : Value.Fits (nested n) (nestedValue n) := by
  induction n with
  | zero => exact .list rfl (Nat.zero_le _) (.nil _)
  | succ n ih => exact .list (isByte_nested n) (Nat.le_refl _) (.cons ih (.nil _))

theorem toJson_nested (n : Nat) : Wire.toJson (nestedValue n) = Json.brackets n := by
  induction n with
  | zero => rfl
  | succ n ih => rw [nestedValue, Wire.toJson, Wire.itemsToJson, ih]; rfl

theorem decode_of_deep {codec : Codec} (supported : codec.type.isSupported = true) {v : Value}
    (fits : Value.Fits codec.type v) (deep : Json.depthLimit < (Wire.toJson v).levels) :
    codec.decode (.octets (encode v)) = .error tooDeep := by
  have decoded := (codec.decode_encode_eq (Wire.readable_toJson supported fits)).1
  rwa [if_neg (Nat.not_le.2 deep)] at decoded

theorem decode_encode_nested :
    (nested 4999).isSupported = true ∧ Value.Fits (nested 4999) (nestedValue 4999) ∧
      Wire.toJson (nestedValue 4999) = Json.brackets 4999 ∧
      (plain (nested 4999)).decode (.octets (encode (nestedValue 4999))) = .error tooDeep := by
  have supported : (plain (nested 4999)).type.isSupported = true := isSupported_nested 4999
  have deep : Json.depthLimit < (Wire.toJson (nestedValue 4999)).levels := by
    rw [toJson_nested, Json.levels_brackets]
    decide
  exact ⟨supported, fits_nested 4999, toJson_nested 4999,
    decode_of_deep supported (fits_nested 4999) deep⟩

/-- Bitfields that fill no whole octet, and sequences with and without octets. -/
def sampleType : Ty :=
  .container "Sample"
    [("slots", .vector (.uint 64) 2), ("bits", .bitlist 9), ("flags", .bitvector 3),
      ("octets", .list (.uint 8) 4), ("rows", .list (.vector .boolean 1) 3)]

def sampleValue : Value :=
  .record
    [("slots", .seq [.uint 0, .uint 18446744073709551615]), ("bits", .bitlist []),
      ("flags", .bitvector [true, false, true]), ("octets", .bytes [0, 255]),
      ("rows", .seq [.seq [.boolean true], .seq [.boolean false]])]

theorem decode_of_written_sampleValue :
    sampleType.isSupported = true ∧ Value.Fits sampleType sampleValue ∧
      (plain sampleType).decode (.octets (encode sampleValue)) = .ok (some sampleValue) ∧
      (plain sampleType).decodeList (.octets (encodeList [sampleValue, sampleValue])) =
        .ok [some sampleValue, some sampleValue] := by
  have supported : sampleType.isSupported = true := by decide +kernel
  have fits : Value.Fits sampleType sampleValue := by decide +kernel
  obtain ⟨single, list⟩ := decode_of_written (plain sampleType) supported
  have decoded := (single sampleValue fits).2.2.2
  have decodedList := (list [sampleValue, sampleValue] (by simp [fits, plain])).2.2
  rw [if_pos (by decide +kernel)] at decoded decodedList
  exact ⟨supported, fits, decoded, decodedList⟩

end BlockWire.Codec
