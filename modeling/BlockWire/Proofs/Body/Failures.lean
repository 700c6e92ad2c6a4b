/- # How a field fails

A field that does not take its octets fails in few ways (`Field.fails_of_read`): graffiti
with a fault of its own; a list of operations with a null entry; and every field but
graffiti with a mismatch, whose index is the one that its path begins with. Paths begin
with an index in list fields alone, since elsewhere the first step into a value is a field
(`Wire.fromJson_unplaced`). -/
import BlockWire.Proofs.Body.Acceptance

namespace BlockWire

set_option autoImplicit false

/-- A type whose values are vectors or lists. -/
def Ty.isSequence : Ty → Bool
  | .vector _ _ => true
  | .list _ _ => true
  | _ => false

/-- A refusal whose path does not begin with an index. -/
def Refusal.Unplaced : Refusal → Prop
  | .mismatch m => Failure.leadingIndex? m.path = none
  | .unsupported _ => True

theorem ofValue_unplaced : OfValue Refusal.Unplaced where
  mismatch _ _ _ := rfl

theorem Refusal.unplaced_within_field (name : Text) (r : Refusal) :
    (r.within (.field name)).Unplaced := by
  cases r with
  | mismatch m => rfl
  | unsupported type => exact trivial

namespace Wire

theorem fieldsFromJson_unplaced (fields : List (Text × Ty)) (members : Keyed Json) :
    Refuses Refusal.Unplaced (fieldsFromJson fields members) := by
  induction fields with
  | nil => exact .ok []
  | cons field rest ih =>
      obtain ⟨name, type⟩ := field
      rw [fieldsFromJson]
      split
      · exact .error rfl
      next j _ =>
        refine Refuses.bind ?_ fun _ => ih.bind fun _ => .ok _
        intro r failed
        obtain ⟨cause, -, rfl⟩ := mapError_eq_error.1 failed
        exact Refusal.unplaced_within_field name cause

/-- Where a type has no sequences of values, no path begins with an index. -/
theorem fromJson_unplaced {type : Ty} (single : type.isSequence = false) (j : Json) :
    Refuses Refusal.Unplaced (fromJson type j) := by
  have value := ofValue_unplaced
  cases type with
  | vector => simp [Ty.isSequence] at single
  | list => simp [Ty.isSequence] at single
  | container name fields =>
      exact present_refuses value ((declaredMembers_refuses value _ j).bind fun members =>
        (fieldsFromJson_unplaced fields members).map _)
  | shapeless name => exact present_refuses value (.error trivial)
  | _ => exact fromJson_refuses_of_leaf value rfl j

end Wire

theorem Codec.decode_unplaced {codec : Codec} (single : codec.type.isSequence = false)
    (d : Document) : Refuses Refusal.Unplaced (codec.decode d) := by
  refine Refuses.bind ?_ fun j => Codec.fromJson_refuses (Wire.fromJson_unplaced single) j
  intro r failed
  obtain ⟨fault, -, rfl⟩ := mapError_eq_error.1 failed
  rfl

namespace Body

/-- How a field can fail to take octets. -/
inductive Field.Fails : Field → Failure → Prop where
  | graffiti (fault : GraffitiFault) :
      Field.Fails .graffiti (.field Field.graffiti.name (some (.graffiti fault)) none)
  | mismatch {field : Field} {m : Mismatch} (other : field ≠ .graffiti)
      (flat : field.isList = false → Failure.leadingIndex? m.path = none) :
      Field.Fails field
        (.field field.name (some (.mismatch m)) (Failure.leadingIndex? m.path))
  | missingEntry (which : Operations) (i : Nat) :
      Field.Fails (.operations which) (.missingEntry which.name i)

variable {preset : Preset}

theorem fails_of_readSingle (field : Field) {codec : Codec} (other : field ≠ .graffiti)
    (supported : codec.type.isSupported = true) (single : codec.type.isSequence = false)
    {raw : Octets} {failure : Failure}
    (failed : readSingle field.name codec raw = .error failure) : field.Fails failure := by
  unfold readSingle at failed
  split at failed
  · simp at failed
  · obtain rfl := Except.error.inj failed
    exact .mismatch other fun _ => rfl
  next r found =>
    obtain rfl := Except.error.inj failed
    obtain ⟨m, rfl⟩ := Codec.decode_shaped supported _ r found
    exact .mismatch other fun _ => Codec.decode_unplaced single _ _ found

theorem fails_of_readEntries (field : Field) {codec : Codec} (listed : field.isList = true)
    (supported : codec.type.isSupported = true) {raw : Octets} {failure : Failure}
    (failed : readEntries field.name codec raw = .error failure) : field.Fails failure := by
  obtain ⟨r, found, rfl⟩ := mapError_eq_error.1 failed
  obtain ⟨m, rfl⟩ := Codec.decodeList_shaped supported _ r found
  refine .mismatch ?_ fun flat => ?_
  · rintro rfl
    simp [Field.isList] at listed
  · rw [listed] at flat
    simp at flat

theorem fails_of_listValue (field : Field) (other : field ≠ .graffiti)
    {entries : List (Option Value)} {failure : Failure}
    (failed : listValue preset field.name entries = .error failure) : field.Fails failure := by
  unfold listValue at failed
  simp only at failed
  split at failed
  · obtain rfl := Except.error.inj failed
    exact .mismatch other fun _ => rfl
  · simp at failed

theorem fails_of_readOperations {which : Operations}
    (supported : (which.codec preset).type.isSupported = true) {raw : Octets} {failure : Failure}
    (failed : readOperations preset which raw = .error failure) :
    (Field.operations which).Fails failure := by
  rw [readOperations, bind_eq_error] at failed
  rcases failed with unread | ⟨entries, -, failed⟩
  · exact fails_of_readEntries (.operations which) rfl supported unread
  · split at failed
    next i _ =>
      obtain rfl := Except.error.inj failed
      exact .missingEntry which i
    · simp at failed

theorem fails_of_readGraffiti {raw : Octets} {failure : Failure}
    (failed : readGraffiti Field.graffiti.name raw = .error failure) :
    Field.graffiti.Fails failure := by
  unfold readGraffiti at failed
  split at failed
  · simp at failed
  next fault _ =>
    obtain rfl := Except.error.inj failed
    exact .graffiti fault

theorem Field.fails_of_read (field : Field) {raw : Octets} {failure : Failure}
    (failed : field.read preset raw = .error failure) : field.Fails failure := by
  have supported := (field_isSupported preset field).2
  cases field with
  | randaoReveal => exact fails_of_readSingle .randaoReveal (by simp) supported rfl failed
  | graffiti => exact fails_of_readGraffiti failed
  | required which =>
      have single : (which.codec preset).type.isSequence = false := by cases which <;> rfl
      exact fails_of_readSingle (.required which) (by simp) supported single failed
  | operations which =>
      rw [Field.type, Ty.isSupported] at supported
      rw [Field.read, bind_eq_error] at failed
      rcases failed with unread | ⟨entries, -, unlisted⟩
      · exact fails_of_readOperations supported unread
      · exact fails_of_listValue (.operations which) (by simp) unlisted
  | commitments =>
      rw [Field.read, bind_eq_error] at failed
      rcases failed with unread | ⟨entries, -, unlisted⟩
      · exact fails_of_readEntries .commitments rfl rfl unread
      · exact fails_of_listValue .commitments (by simp) unlisted

/-- Whatever is wrong with a field's octets is put down to that field. -/
theorem Field.read_blames {field : Field} {raw : Octets} {failure : Failure}
    (failed : field.read preset raw = .error failure) : Blames field.name failure := by
  cases field.fails_of_read failed with
  | graffiti fault => exact .field _ _
  | mismatch => exact .field _ _
  | missingEntry which i => exact .missingEntry i

end Body

end BlockWire
