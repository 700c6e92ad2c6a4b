/- # Reading a body ends in few ways

`decode_closed`: in a document without surrogates, reading a body gives a value of the body
type or ends with a malformed object, an unknown field, a null entry in a list of operations, a
graffiti fault, or a mismatch in some other field (`Listed`). An index stands beside a
mismatch exactly if its path begins with that index, and then the field is a list field.

And no operation breaks off on the way, as the reading in which they could shows
(`Guarded.decode_eq`). Surrogates add one end to these: where splitting comes to a value that
holds one, the reading ends with what writing it as octets fails with
(`listed_or_unencodable`). -/
import BlockWire.Proofs.Body.Failures
import BlockWire.Proofs.Body.Guarded

namespace BlockWire.Body

set_option autoImplicit false

variable {preset : Preset}

/-- How the reading of a body may end. -/
inductive Listed (preset : Preset) : Except Failure Value → Prop where
  | body {b : Value} (fits : Value.Fits (type preset) b) : Listed preset (.ok b)
  | malformed (why : RawFields.Malformed Json.Place) : Listed preset (.error (.malformed why))
  | unknownField (name : Text) : Listed preset (.error (.unknownField name))
  | missingEntry (which : Operations) (i : Nat) :
      Listed preset (.error (.missingEntry which.name i))
  | graffiti (fault : GraffitiFault) :
      Listed preset (.error (.field Field.graffiti.name (some (.graffiti fault)) none))
  | mismatch {field : Field} {m : Mismatch} {index : Option Int} (other : field ≠ .graffiti)
      (placed : ∀ i, index = some i ↔ ∃ rest, m.path = .index i :: rest)
      (listed : ∀ i, index = some i → field.isList = true) :
      Listed preset (.error (.field field.name (some (.mismatch m)) index))

theorem leadingIndex?_eq_some {path : List Step} {i : Int} :
    Failure.leadingIndex? path = some i ↔ ∃ rest, path = .index i :: rest := by
  cases path with
  | nil => simp [Failure.leadingIndex?]
  | cons step rest => cases step <;> simp [Failure.leadingIndex?]

theorem Listed.of_fails {field : Field} {failure : Failure} (fails : field.Fails failure) :
    Listed preset (.error failure) := by
  cases fails with
  | graffiti fault => exact .graffiti fault
  | missingEntry which i => exact .missingEntry which i
  | @mismatch _ m other flat =>
      refine .mismatch other (fun i => leadingIndex?_eq_some) fun i placed => ?_
      rw [← Bool.not_eq_false]
      intro single
      rw [flat single] at placed
      simp at placed

theorem listed_or_unencodable (preset : Preset) (d : Document) :
    Listed preset (decode preset d).outcome ∨
      ∃ fault, RawFields.split d = .error (.unencodable fault) ∧
        (decode preset d).outcome = .error (.unencodable fault) := by
  have course := course_decode preset d
  generalize decode preset d = report at course
  cases course with
  | @unsplit fault failed =>
      match fault with
      | .unknownField name => exact .inl (.unknownField name)
      | .unsplit (.malformed why) => exact .inl (.malformed why)
      | .unsplit (.unencodable fault) =>
          exact .inr ⟨fault, RawFields.splitDeclared_eq_unsplit.1 failed, rfl⟩
  | reads _ each => exact .inl (.body (Guarded.fits_of_reads each))
  | stops _ _ _ failed => exact .inl (.of_fails (Field.fails_of_read _ failed))

/-- A body is malformed just where its document does not split: no field is. -/
theorem outcome_eq_malformed {d : Document} {why : RawFields.Malformed Json.Place} :
    (decode preset d).outcome = .error (.malformed why) ↔
      RawFields.split d = .error (.malformed why) := by
  rw [← @RawFields.splitDeclared_eq_unsplit (fieldNames preset)]
  constructor
  · intro ends
    have course := course_decode preset d
    generalize decode preset d = report at course ends
    cases course with
    | @unsplit fault failed =>
        match fault with
        | .unknownField name => cases ends
        | .unsplit (.unencodable fault) => cases ends
        | .unsplit (.malformed why') =>
            obtain rfl := Failure.malformed.inj (Except.error.inj ends)
            exact failed
    | reads => cases ends
    | stops _ _ _ failed =>
        obtain rfl := Except.error.inj ends
        cases Field.fails_of_read _ failed
  · intro parted
    rw [decode, parted]
    rfl

/-- The reading of a body ends in one of the listed ways, whatever the document, as long as it
holds no surrogate. Made once more with every partial operation in sight it ends just so, and
none of them breaks off. -/
theorem decode_closed (preset : Preset) {d : Document} (whole : d.IsPlain) :
    Listed preset (decode preset d).outcome ∧
      Guarded.decode preset d = (decode preset d).outcome.mapError .raised ∧
      ∀ breach, Guarded.decode preset d ≠ .error (.broken breach) := by
  have same := Guarded.decode_eq preset whole
  refine ⟨?_, same, fun breach broken => ?_⟩
  · rcases listed_or_unencodable preset d with listed | ⟨fault, failed, -⟩
    · exact listed
    · exact absurd failed (RawFields.split_ne_unencodable whole fault)
  · rw [same] at broken
    obtain ⟨failure, -, raised⟩ := mapError_eq_error.1 broken
    simp at raised

/-- A text that only begins as an object. -/
def cutText : String := "\x7b\"graffiti\""

theorem decode_closed_cutText :
    (Document.text cutText).IsPlain ∧ Listed .minimal (decode .minimal (.text cutText)).outcome ∧
      Guarded.decode .minimal (.text cutText) =
        (decode .minimal (.text cutText)).outcome.mapError .raised ∧
      ∀ breach, Guarded.decode .minimal (.text cutText) ≠ .error (.broken breach) := by
  have whole := Document.isPlain_ofString cutText
  exact ⟨whole, decode_closed .minimal whole⟩

end BlockWire.Body
