/- # Which field a failure is put down to

Fields are read in the order of the schema, whatever order the document has them in, so
the failure of a reading is that of the first field that does not take its own octets
(`first_failure`). A field sees no octets but its own, so the same octets fail alike
beside any others, as long as no earlier field fails. -/
import BlockWire.Proofs.Body.Failures

namespace BlockWire.Body

set_option autoImplicit false

/-- A document that splits is read as a body if every field takes its own octets, and
otherwise fails with what the first field in the order of the type says of its own
octets alone: put down to that field, and the same beside whatever other octets the
earlier fields take. -/
theorem first_failure (preset : Preset) {d : Document} {raws : Keyed Octets}
    (split : RawFields.splitDeclared (fieldNames preset) d = .ok raws) :
    ((∀ field : Field, Accepts preset raws field) ∧ ∃ b, (decode preset d).outcome = .ok b) ∨
      ∃ before field after failure,
        fieldNames preset = (before ++ field :: after).map Field.name ∧
        (∀ g ∈ before, Accepts preset raws g) ∧
        field.read preset (rawOf raws field.name) = .error failure ∧
        (decode preset d).outcome = .error failure ∧ Blames field.name failure ∧
        ∀ (d' : Document) (raws' : Keyed Octets),
          RawFields.splitDeclared (fieldNames preset) d' = .ok raws' →
          rawOf raws' field.name = rawOf raws field.name →
          (∀ g ∈ before, Accepts preset raws' g) → (decode preset d').outcome = .error failure := by
  rcases accepts_or_first preset raws order with
    all | ⟨before, field, after, failure, parted, earlier, failed⟩
  · choose val reads using fun field => all field (mem_order field)
    have read := decode_of_reads split reads
    exact .inl ⟨fun field => ⟨val field, reads field⟩, _, congrArg Report.outcome read⟩
  · refine .inr ⟨before, field, after, failure, ?_, earlier, failed, ?_,
      Field.read_blames failed, ?_⟩
    · rw [names_eq, parted]
    · rw [decode_of_first split parted earlier failed]
    · intro d' raws' split' same earlier'
      rw [← same] at failed
      rw [decode_of_first split' parted earlier' failed]

/-- Two bad fields, in the order that the schema does not have them in. -/
def twoBadFields : Document :=
  .octets (Utf8.encode "\x7b\"graffiti\": 1, \"randao_reveal\": null\x7d")

theorem first_failure_twoBadFields :
    (∃ raws, RawFields.splitDeclared (fieldNames .minimal) twoBadFields = .ok raws) ∧
      (decode .minimal twoBadFields).outcome =
        .error (.field "randao_reveal" (some (.mismatch (.missing .valueMissing []))) none) := by
  have split : RawFields.splitDeclared (fieldNames .minimal) twoBadFields =
      .ok [("graffiti", Utf8.encode "1"), ("randao_reveal", nullOctets)] := by decide +kernel
  have rejected : readSingle "randao_reveal" (.ofLength 96) nullOctets =
      .error (.field "randao_reveal" (some (.mismatch (.missing .valueMissing []))) none) := rfl
  refine ⟨⟨_, split⟩, ?_⟩
  rcases first_failure .minimal split with
    ⟨all, -⟩ | ⟨before, field, after, failure, parted, earlier, failed, outcome, -⟩
  · obtain ⟨v, read⟩ := all .randaoReveal
    exact absurd (rejected.symm.trans read) (by simp)
  · cases before with
    | nil =>
        obtain ⟨name, -⟩ := List.cons.inj parted
        obtain rfl : Field.randaoReveal = field := name_injective name
        rw [outcome, ← Except.error.inj (rejected.symm.trans failed)]
    | cons first rest =>
        obtain ⟨name, -⟩ := List.cons.inj parted
        obtain rfl : Field.randaoReveal = first := name_injective name
        obtain ⟨v, read⟩ := earlier _ List.mem_cons_self
        exact absurd (rejected.symm.trans read) (by simp)

end BlockWire.Body
