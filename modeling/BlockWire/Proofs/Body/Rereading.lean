/- # Values that are read, written and read again

A body given as a value is written first and then split, so a value that has been read should be
one that is read again. It is, unless some number in it is infinite: a numeral beyond the largest
number is read as an infinite one, and that is written as a word (`reread_iff_isFinite`). Splitting
reads with a level more than a value that was read can have, so levels are never in the way. -/
import BlockWire.Proofs.Json.Rereading
import BlockWire.Proofs.RawFields.ObjectText
import BlockWire.Proofs.Body.Closure

namespace BlockWire

set_option autoImplicit false

open Json (Sound Fits depthLimit)

namespace RawFields

/-- A sound object is split after it was written exactly if it fits, with the level of a raw
field more. -/
theorem split_encode_iff {members : Keyed Json} (sound : Sound (.obj members)) :
    (∃ raws, split (.octets (Json.obj members).encode) = .ok raws) ↔
      Fits (depthLimit + 1) (.obj members) := by
  have plain := (Json.graphic_print (.obj members)).plain
  have isText : text (.octets (Json.obj members).encode) = .ok (Json.print (.obj members)) :=
    text_encode plain
  rcases sound.takes_or_rejects (depthLimit + 1) with ⟨fits, x, takes⟩ | ⟨unfit, rejected⟩
  · obtain ⟨found, rfl⟩ := Json.exists_obj_of_takes takes
    have scanned := takes.scanned (Json.scanValue_local _)
    obtain ⟨raws, parted⟩ := exists_split_of_scanned plain scanned rfl
    exact iff_of_true ⟨raws, split_eq_ok.2 ⟨_, isText, parted⟩⟩ fits
  · refine iff_of_false ?_ unfit
    rintro ⟨raws, parted⟩
    obtain ⟨t, isText', parts⟩ := split_eq_ok.1 parted
    obtain rfl := Except.ok.inj (isText.symm.trans isText')
    obtain ⟨found, left, scanned, -⟩ := scanned_of_splitText parts
    exact rejected.not_scanned scanned

end RawFields

namespace Body

/-- Whatever is read is read again after it was written, exactly if no number in it is infinite;
and so it is with objects and splitting them, and with reading them as bodies, which then are
never malformed. -/
theorem reread_iff_isFinite {d : Document} {v : Json} (loaded : Json.load d = .ok v) :
    ((∃ x, Json.load (.octets v.encode) = .ok x) ↔ v.isFinite = true) ∧
      ∀ members, v = .obj members →
        ((∃ raws, RawFields.split (.octets v.encode) = .ok raws) ↔ v.isFinite = true) ∧
        ∀ preset, (∀ why, (ofJson preset v).outcome ≠ .error (.malformed why)) ↔
          v.isFinite = true := by
  have sound := Json.load_sound loaded
  have shallow := (Json.load_formed loaded).levels_le
  have fits_iff {depth : Nat} (le : depthLimit ≤ depth) : Fits depth v ↔ v.isFinite = true :=
    and_iff_left (Nat.le_trans shallow le)
  refine ⟨sound.load_encode_iff.trans (fits_iff (Nat.le_refl _)), ?_⟩
  rintro members rfl
  have splits := (RawFields.split_encode_iff sound).trans (fits_iff (Nat.le_succ _))
  refine ⟨splits, fun preset => ?_⟩
  rw [← splits]
  simp only [ofJson, ne_eq, outcome_eq_malformed]
  cases parted : RawFields.split (.octets (Json.obj members).encode) with
  | ok raws => simp
  | error why =>
      cases why with
      | malformed why => simp
      | unencodable fault =>
          have plain : (Document.octets (Json.obj members).encode).IsPlain := trivial
          exact absurd parted (RawFields.split_ne_unencodable plain fault)

/-- A number that has to be rounded, and a whole one. -/
def fraction : String := "\x7b\"randao_reveal\":[0.1,2]\x7d"

theorem reread_iff_isFinite_fraction :
    ∃ members, Json.load (.text fraction) = .ok (.obj members) ∧
      (∃ x, Json.load (.octets (Json.obj members).encode) = .ok x) ∧
      (∃ raws, RawFields.split (.octets (Json.obj members).encode) = .ok raws) ∧
      ∀ preset why, (ofJson preset (.obj members)).outcome ≠ .error (.malformed why) := by
  have read : ((fun v => (v.kind, v.isFinite)) <$> Json.load (.text fraction)) =
      .ok (.obj, true) := by decide +kernel
  obtain ⟨v, loaded, same⟩ := map_eq_ok.1 read
  obtain ⟨isObj, finite⟩ := Prod.mk.inj same
  obtain ⟨members, rfl⟩ := Json.kind_eq_obj.1 isObj
  obtain ⟨reread, object⟩ := reread_iff_isFinite loaded
  obtain ⟨split, body⟩ := object members rfl
  exact ⟨members, loaded, reread.2 finite, split.2 finite, fun preset => (body preset).2 finite⟩

/-- A numeral beyond the largest number. -/
def beyond : String := "\x7b\"randao_reveal\":1e400\x7d"

/-- What is written for it. -/
def beyondWritten : Text := "\x7b\"randao_reveal\":Infinity\x7d"

/-- It is read as an object of one level. Written, that is neither read nor split, and it is
malformed as a body. -/
theorem beyond_not_reread :
    ∃ members, Json.load (.text beyond) = .ok (.obj members) ∧ (Json.obj members).levels = 1 ∧
      Json.print (.obj members) = beyondWritten ∧
      Json.load (.octets (Json.obj members).encode) = .error (.json (.constant "Infinity")) ∧
      RawFields.split (.octets (Json.obj members).encode) =
        .error (.malformed (.json (.constant "Infinity"))) ∧
      ∀ preset, (ofJson preset (.obj members)).outcome =
        .error (.malformed (.json (.constant "Infinity"))) := by
  have read : ((fun v => (v.kind, v.levels, v.print)) <$> Json.load (.text beyond)) =
      .ok (.obj, 1, beyondWritten) := by decide +kernel
  obtain ⟨v, loaded, same⟩ := map_eq_ok.1 read
  obtain ⟨isObj, same⟩ := Prod.mk.inj same
  obtain ⟨levels, written⟩ := Prod.mk.inj same
  obtain ⟨members, rfl⟩ := Json.kind_eq_obj.1 isObj
  have octets : (Json.obj members).encode = Utf8.encode beyondWritten :=
    congrArg Utf8.encode written
  have unread : ((fun _ => ()) <$> Json.load (.octets (Utf8.encode beyondWritten))) =
      .error (.json (.constant "Infinity")) := by decide +kernel
  have unsplit : RawFields.split (.octets (Json.obj members).encode) =
      .error (.malformed (.json (.constant "Infinity"))) := by
    rw [octets]
    decide +kernel
  refine ⟨members, loaded, levels, written, ?_, unsplit,
    fun preset => outcome_eq_malformed.2 unsplit⟩
  rw [octets]
  exact map_eq_error.1 unread

end Body

end BlockWire
