/- # Splitting agrees with reading

`split_agrees_with_load`: a text can be split exactly if it is read as an object. Both
give the same keys in the same order, that of their first occurrences, and a raw field is
the slice in which the last occurrence of its key has its value. As octets of its own,
whose encoding is guessed again, the slice is read as that very value; so a codec that is
given a raw field does what its type does with the value, and never finds it unreadable.

The text of an object begins with a blank or a brace and therefore with no mark
(`ObjectText.startsWithMark`). -/
import BlockWire.Proofs.RawFields.ObjectText
import BlockWire.Proofs.Wire.Codecs

namespace BlockWire

set_option autoImplicit false

namespace Json

theorem startsWithMark_blanks {blanks rest : Text} {c : CodePoint}
    (areBlanks : ∀ b ∈ blanks, isBlank b = true) (other : c ≠ .byteOrderMark) :
    startsWithMark (blanks ++ c :: rest) = false := by
  cases blanks with
  | nil => simp [startsWithMark, other]
  | cons b blanks =>
      have blank : isBlank b = true := areBlanks b List.mem_cons_self
      have noMark : b ≠ .byteOrderMark := by
        rintro rfl
        exact absurd blank (by decide)
      simp [startsWithMark, noMark]

/-- A text with no mark in front is read for what it is. -/
theorem load_text_eq_ok {t : Text} {v : Json} :
    load (.text t) = .ok v ↔ startsWithMark t = false ∧ parse t = .ok v := by
  rw [load]
  split
  next marked => simp [marked]
  next unmarked => simp [unmarked, mapError_eq_ok]

end Json

namespace RawFields

open Json (NestsWithin depthLimit)

theorem ObjectText.startsWithMark {t : Text} {fields : List (Text × Text)}
    (shaped : ObjectText t fields) : Json.startsWithMark t = false := by
  cases shaped with
  | empty blanks₁ => exact Json.startsWithMark_blanks blanks₁ (by decide)
  | fields blanks₁ => exact Json.startsWithMark_blanks blanks₁ (by decide)

theorem split_text_eq_ok {t : Text} {raws : Keyed Octets} :
    split (.text t) = .ok raws ↔ splitText t = .ok raws := by
  rw [split_eq_ok]
  constructor
  · rintro ⟨t, isText, parted⟩
    obtain rfl := Except.ok.inj isText
    exact parted
  · intro parted
    exact ⟨_, rfl, parted⟩

/-- The octets of a text that can be split are read as that text, whether or not their
encoding has to be guessed. -/
theorem decode_of_splitText {t : Text} {raws : Keyed Octets} (parted : splitText t = .ok raws) :
    Encoding.decode (Utf8.encode t) = .ok t := by
  obtain ⟨rest, pairs, left, opened, inside, ends, -⟩ := splitText_eq_ok.1 parted
  obtain ⟨s, rfl, noZero, -⟩ :=
    Json.items_local Json.closer_brace rawMember_local rawMember_apart inside
  obtain ⟨before, blanks, spaced⟩ := exists_blanks t
  have blanks' : Blanks left := skipBlanks_eq_nil.1 ends
  rw [opened] at spaced
  subst spaced
  apply Encoding.decode_encode
  · intro c mem
    simp only [List.mem_append, List.mem_cons] at mem
    rcases mem with inBlanks | rfl | inFields | rfl | inBlanks
    · exact Json.ne_zero_of_isBlank (blanks c inBlanks)
    · decide
    · exact noZero c inFields
    · decide
    · exact Json.ne_zero_of_isBlank (blanks' c inBlanks)
  · cases before with
    | nil => exact ⟨_, _, rfl, by decide⟩
    | cons b before => exact ⟨b, _, rfl, Json.isAscii_of_isBlank (blanks b List.mem_cons_self)⟩

/-- A text without surrogates that is read as an object can be split. -/
theorem exists_split_of_parse {t : Text} (plain : ∀ c ∈ t, c.isSurrogate = false)
    {members : Keyed Json} (read : Json.parse t = .ok (.obj members)) :
    ∃ raws, splitText t = .ok raws := by
  obtain ⟨left, value, nothing⟩ := Json.parse_eq_ok.1 read
  exact exists_split_of_scanned plain (Json.scanValue_mono (Nat.le_succ depthLimit) value) nothing

/-- A document that is split and read as an object has raw fields that hold its members. -/
theorem related_of_load {d : Document} {raws : Keyed Octets} {members : Keyed Json}
    (parted : split d = .ok raws) (loaded : Json.load d = .ok (.obj members)) :
    Keyed.Related Holds raws members := by
  obtain ⟨t, isText, parts⟩ := split_eq_ok.1 parted
  have parsed : Json.parse t = .ok (.obj members) := by
    cases d with
    | octets content =>
        obtain ⟨rfl, -⟩ := text_octets_eq_ok.1 isText
        rw [Json.load, decode_of_splitText parts] at loaded
        exact mapError_eq_ok.1 loaded
    | text s =>
        obtain rfl := Except.ok.inj isText
        exact (Json.load_text_eq_ok.1 loaded).2
  exact related_of_parse parts parsed

/-- A document that is split is read as an object, as long as its values do not nest deeper
than reading can follow. -/
theorem load_of_split {d : Document} {t : Text} (isText : text d = .ok t) {depth : Nat}
    (le : depth ≤ depthLimit) (nests : NestsWithin depth t) {raws : Keyed Octets}
    (parted : split d = .ok raws) : ∃ members, Json.load d = .ok (.obj members) := by
  obtain ⟨t', isText', parts⟩ := split_eq_ok.1 parted
  obtain rfl : t = t' := Except.ok.inj (isText.symm.trans isText')
  obtain ⟨members, parsed, -⟩ := parse_of_splitText le nests parts
  refine ⟨members, ?_⟩
  cases d with
  | octets content =>
      obtain ⟨rfl, -⟩ := text_octets_eq_ok.1 isText
      rw [Json.load, decode_of_splitText parts]
      exact mapError_eq_ok.2 parsed
  | text s =>
      obtain rfl := Except.ok.inj isText
      obtain ⟨fields, shaped, -⟩ := splitText_eq_ok_iff.1 parts
      exact Json.load_text_eq_ok.2 ⟨shaped.startsWithMark, parsed⟩

/-- A raw field of an object is the text of the last value that stands under its key. -/
theorem ObjectText.last_slice {t : Text} {fields : List (Text × Text)}
    (shaped : ObjectText t fields) {key : Text} {raw : Octets}
    (found : Keyed.get? (Keyed.ofPairs (fields.map encodeField)) key = some raw) :
    ∃ slice, Keyed.get? fields.reverse key = some slice ∧ raw = Utf8.encode slice ∧
      slice <:+: t ∧ Trimmed slice := by
  have encoded : fields.map encodeField =
      fields.map fun field => (field.1, Utf8.encode field.2) := rfl
  rw [Keyed.get?_ofPairs, encoded, ← List.map_reverse, Keyed.get?_mapValues,
    Option.map_eq_some_iff] at found
  obtain ⟨slice, last, rfl⟩ := found
  have stands : (key, slice) ∈ fields := List.mem_reverse.1 (Keyed.mem_of_get? last)
  obtain ⟨part, value⟩ := shaped.slice _ stands
  exact ⟨slice, last, rfl, part, value.trimmed⟩

/-- Splitting and reading accept the same texts, and give the same keys in the same order.
Each raw field is a slice of the text with no blank at either end, and is read from its
octets as the very value that the member has. -/
theorem split_agrees_with_load (s : String) {depth : Nat} (le : depth ≤ depthLimit)
    (nests : NestsWithin depth (Text.ofString s)) :
    ((∃ raws, split (.text s) = .ok raws) ↔
      ∃ members, Json.load (.text s) = .ok (.obj members)) ∧
    ∀ raws members, split (.text s) = .ok raws → Json.load (.text s) = .ok (.obj members) →
      Keyed.keys raws = Keyed.keys members ∧
      ∃ fields, ObjectText (Text.ofString s) fields ∧
        Keyed.keys raws = (Keyed.keys fields).eraseDups ∧
        ∀ key raw, Keyed.get? raws key = some raw →
          ∃ slice value, Keyed.get? fields.reverse key = some slice ∧ raw = Utf8.encode slice ∧
            slice <:+: Text.ofString s ∧ Trimmed slice ∧
            Keyed.get? members key = some value ∧ Json.load (.octets raw) = .ok value ∧
            ∀ codec : Codec,
              codec.decode (.octets raw) = codec.fromJson value ∧
              codec.decodeList (.octets raw) = codec.listFromJson value ∧
              Refuses Refusal.Legible (codec.decode (.octets raw)) ∧
              Refuses Refusal.Legible (codec.decodeList (.octets raw)) := by
  simp only [split_text_eq_ok, Json.load_text_eq_ok]
  constructor
  · constructor
    · rintro ⟨raws, parted⟩
      obtain ⟨fields, shaped, -⟩ := splitText_eq_ok_iff.1 parted
      obtain ⟨members, read, -⟩ := parse_of_splitText le nests parted
      exact ⟨members, shaped.startsWithMark, read⟩
    · rintro ⟨members, -, read⟩
      exact exists_split_of_parse (Document.isPlain_ofString s) read
  · rintro raws members parted ⟨-, read⟩
    have related := related_of_parse parted read
    obtain ⟨fields, shaped, -, same⟩ := splitText_eq_ok_iff.1 parted
    have ordered : Keyed.keys raws = (Keyed.keys fields).eraseDups := by
      rw [same, Keyed.keys_ofPairs, keys_encodeField]
    refine ⟨related.keys_eq, fields, shaped, ordered, ?_⟩
    intro key raw found
    obtain ⟨value, member, holds⟩ := related.get?_left found
    obtain ⟨slice, last, octets, part, trimmed⟩ := shaped.last_slice (same ▸ found)
    refine ⟨slice, value, last, octets, part, trimmed, member, holds.load, fun codec => ?_⟩
    obtain ⟨single, list⟩ := codec.decode_of_load holds.load
    obtain ⟨legible, legibleList⟩ := codec.legible_of_load holds.load
    exact ⟨single, list, legible, legibleList⟩

/-- A key that stands twice and is escaped the second time, and a string beyond ASCII. -/
def repeatedKey : String :=
  " \x7b \"a\" : [1, 2 ] , \"b\":\"é€𐍈\",\"\\u0061\": \x7b\"c\": -0.5e1 \x7d \x7d\n"

theorem split_agrees_with_load_repeatedKey :
    400 ≤ depthLimit ∧ NestsWithin 400 (Text.ofString repeatedKey) ∧
      split (.text repeatedKey) = .ok [
        ("a", Utf8.encode "\x7b\"c\": -0.5e1 \x7d"), ("b", Utf8.encode "\"é€𐍈\"")] ∧
      ∃ members, Json.load (.text repeatedKey) = .ok (.obj members) ∧
        Keyed.keys members = ["a", "b"] := by
  have nests : NestsWithin 400 (Text.ofString repeatedKey) := by
    intro failed
    have read : (Json.scanValue 400 (Json.skipBlanks (Text.ofString repeatedKey))).isOk = true := by
      decide +kernel
    rw [failed] at read
    exact absurd read (by decide)
  have parted : split (.text repeatedKey) = .ok [
      ("a", Utf8.encode "\x7b\"c\": -0.5e1 \x7d"), ("b", Utf8.encode "\"é€𐍈\"")] := by
    decide +kernel
  obtain ⟨accepts, agrees⟩ := split_agrees_with_load repeatedKey (by decide) nests
  obtain ⟨members, loaded⟩ := accepts.1 ⟨_, parted⟩
  exact ⟨by decide, nests, parted, members, loaded, (agrees _ _ parted loaded).1.symm⟩

end RawFields

end BlockWire
