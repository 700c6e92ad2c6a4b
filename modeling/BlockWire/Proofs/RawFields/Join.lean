/- # Splitting what was joined

Joining adds nothing to a raw value, so an object that is joined from written values
under distinct keys splits into the fields it was joined from (`split_join`). The
object is a text before it is octets: `written` is that text.

A whole object is written as its members are, joined (`join_encodeMember`), so what is
written at once is split into members as well (`split_encode`). -/
import BlockWire.Proofs.RawFields.Split

namespace BlockWire

set_option autoImplicit false

namespace Utf8

theorem encode_join (parts : List Text) :
    encode (Text.join "," parts) = Text.join (encode ",") (parts.map encode) := by
  induction parts with
  | nil => rfl
  | cons s rest ih =>
      cases rest with
      | nil => rfl
      | cons s' rest =>
          rw [Text.join_cons_cons, encode_append, encode_append, ih]
          rfl

end Utf8

namespace RawFields

open Json (Takes Unpaired scanValue depthLimit)

/-- A raw value as it can stand in a document that has to be UTF-8. -/
def Whole (raw : Octets) : Prop :=
  ∃ s v, raw = Utf8.encode s ∧ (∀ c ∈ s, c.isSurrogate = false) ∧ Takes (scanValue depthLimit) s v

/-- A field as it is written. -/
def writtenField (field : Text × Text) : Text := Json.printString field.1 ++ ":" ++ field.2

/-- The text of an object with such fields. -/
def written (fields : List (Text × Text)) : Text :=
  Json.bracketed "\x7b" "\x7d" (fields.map writtenField)

/-- A field of text as a field of octets. -/
def encodeField (field : Text × Text) : Text × Octets := (field.1, Utf8.encode field.2)

theorem keys_encodeField (fields : List (Text × Text)) :
    Keyed.keys (fields.map encodeField) = Keyed.keys fields := by
  rw [Keyed.keys, Keyed.keys, List.map_map]
  rfl

theorem join_encodeField (fields : List (Text × Text)) :
    join (fields.map encodeField) = Utf8.encode (written fields) := by
  have parts : (fields.map encodeField).map (fun field => joinMember field.1 field.2) =
      (fields.map writtenField).map Utf8.encode := by
    rw [List.map_map, List.map_map]
    refine List.map_congr_left fun field _ => ?_
    exact (Utf8.encode_append _ _).symm
  rw [join, parts, ← Utf8.encode_join, written, Json.bracketed, Utf8.encode_append,
    Utf8.encode_append]

theorem exists_encodeField {fields : List (Text × Octets)}
    (whole : ∀ field ∈ fields, Whole field.2) :
    ∃ texts : List (Text × Text), fields = texts.map encodeField ∧
      (∀ field ∈ texts, ∀ c ∈ field.2, c.isSurrogate = false) ∧
      ∀ field ∈ texts, ∃ v, Takes (scanValue depthLimit) field.2 v := by
  induction fields with
  | nil => exact ⟨[], rfl, by simp, by simp⟩
  | cons field rest ih =>
      obtain ⟨key, raw⟩ := field
      obtain ⟨here, later⟩ := List.forall_mem_cons.1 whole
      obtain ⟨s, v, rfl, plain, takes⟩ := here
      obtain ⟨texts, rfl, allPlain, allTake⟩ := ih later
      exact ⟨(key, s) :: texts, rfl, List.forall_mem_cons.2 ⟨plain, allPlain⟩,
        List.forall_mem_cons.2 ⟨⟨v, takes⟩, allTake⟩⟩

theorem splitText_written {fields : List (Text × Text)}
    (distinct : (Keyed.keys fields).Nodup) (unpaired : ∀ key ∈ Keyed.keys fields, Unpaired key)
    (plain : ∀ field ∈ fields, ∀ c ∈ field.2, c.isSurrogate = false)
    (takes : ∀ field ∈ fields, ∃ v, Takes (scanValue depthLimit) field.2 v) :
    splitText (written fields) = .ok (fields.map encodeField) := by
  have parts : List.Forall₂ (Takes rawMember) (fields.map writtenField)
      (fields.map encodeField) := by
    rw [List.forall₂_map_left_iff, List.forall₂_map_right_iff, List.forall₂_same]
    intro field mem rest ends
    obtain ⟨v, value⟩ := takes field mem
    have key := unpaired field.1 (List.mem_map_of_mem mem)
    exact rawMember_eq_ok.2
      (Json.isMember_written key rawValue_local (rawValue_of_takes value (plain field mem)) ends)
  have same := keys_encodeField fields
  have solid : Json.skipBlanks (written fields) = written fields :=
    Json.skipBlanks_of_stops (Json.stops_cons.2 (by decide))
  have inside : Json.items rawMember (.ofChar '\x7d') unparted
      (Text.join "," (fields.map writtenField) ++ [.ofChar '\x7d']) =
        .ok (fields.map encodeField, []) :=
    Json.items_join Json.closer_brace rawMember_local rawMember_apart parts []
  rw [splitText_eq_ok, solid]
  refine ⟨_, _, [], rfl, inside, rfl, ?_⟩
  rw [Keyed.ofPairs_of_nodup (same ▸ distinct)]

theorem text_encode {t : Text} (plain : ∀ c ∈ t, c.isSurrogate = false) :
    text (.octets (Utf8.encode t)) = .ok t := text_octets_eq_ok.2 ⟨rfl, plain⟩

/-- Joined fields are split again. -/
theorem split_join {fields : List (Text × Octets)} (distinct : (Keyed.keys fields).Nodup)
    (unpaired : ∀ key ∈ Keyed.keys fields, Unpaired key)
    (whole : ∀ field ∈ fields, Whole field.2) : split (.octets (join fields)) = .ok fields := by
  obtain ⟨texts, rfl, plain, takes⟩ := exists_encodeField whole
  rw [keys_encodeField] at distinct unpaired
  have noSurrogate : ∀ c ∈ written texts, c.isSurrogate = false := by
    refine Json.forall_mem_bracketed (by decide) (by decide) (by decide)
      (List.forall_mem_map.2 fun field mem => ?_)
    have name := (Json.graphic_printString field.1).append (show Json.Graphic ":" by decide)
    exact List.forall_mem_append.2 ⟨name.plain, plain field mem⟩
  rw [split, join_encodeField, text_encode noSurrogate]
  simp only [Except.mapError, bind, Except.bind, splitText_written distinct unpaired plain takes]

/-! ## Written objects -/

/-- A member with the octets of its value. -/
def encodeMember (member : Text × Json) : Text × Octets := (member.1, member.2.encode)

theorem keys_encodeMember (members : Keyed Json) :
    Keyed.keys (members.map encodeMember) = Keyed.keys members := by
  rw [Keyed.keys, Keyed.keys, List.map_map]
  rfl

/-- Members written one by one and joined are the object written at once. -/
theorem join_encodeMember (members : Keyed Json) :
    join (members.map encodeMember) = (Json.obj members).encode := by
  have texts : members.map encodeMember =
      (members.map fun member => (member.1, Json.print member.2)).map encodeField := by
    rw [List.map_map]
    rfl
  have parts : (members.map fun member => (member.1, Json.print member.2)).map writtenField =
      Json.printMembers members := by
    rw [List.map_map, Json.printMembers_eq_map]
    rfl
  rw [texts, join_encodeField, written, parts, Json.encode, Json.print]

theorem whole_encode {v : Json} (readable : Json.Readable depthLimit v) : Whole v.encode :=
  ⟨Json.print v, v, rfl, (Json.graphic_print v).plain, readable.takes⟩

/-- A written object splits into its members, each written. -/
theorem split_encode {members : Keyed Json}
    (readable : Json.Readable (depthLimit + 1) (.obj members)) :
    split (.octets (Json.obj members).encode) = .ok (members.map encodeMember) := by
  cases readable with
  | obj distinct unpaired each =>
      rw [← join_encodeMember]
      apply split_join
      · rw [keys_encodeMember]
        exact distinct
      · rw [keys_encodeMember]
        exact unpaired
      · rw [List.forall_mem_map]
        exact fun member mem => whole_encode (each member mem)

end RawFields

end BlockWire
