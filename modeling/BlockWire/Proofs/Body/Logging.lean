/- # What reading a body logs

One record is logged for a field that is rejected, and it names the field and, where an entry
is null, the index. Nothing is logged of a body that is read, or of a document that is not
split (`Logged`).

In the reading itself a record is made of the failure once a field has failed. `Traced` is the
reading in which each place that rejects a field logs that itself: for a mismatch it has met,
for a fault in graffiti, for a cause it makes up, or for a null entry. The two are the same
report for every document, so no place logs twice and none forgets to (`decode_logged`). -/
import BlockWire.Proofs.Body.Failures

namespace BlockWire.Body

set_option autoImplicit false

/-- A report on a body, with the records that belong beside its outcome. -/
inductive Logged : Report Failure Value → Prop where
  | body (b : Value) : Logged ⟨[], .ok b⟩
  | malformed (why : RawFields.Malformed Json.Place) : Logged ⟨[], .error (.malformed why)⟩
  | unencodable (fault : Encoding.Unencodable) : Logged ⟨[], .error (.unencodable fault)⟩
  | unknownField (name : Text) : Logged ⟨[], .error (.unknownField name)⟩
  | field (field : Field) (cause : Failure) (index : Option Int) :
      Logged ⟨[⟨.debug, .body,
          "Block body field " ++ field.name ++ " rejected: " ++ cause.message⟩],
        .error (.field field.name (some cause) index)⟩
  | missingEntry (which : Operations) (i : Nat) :
      Logged ⟨[⟨.debug, .body,
          "Block body field " ++ which.name ++ " rejected: " ++
            ("entry " ++ Text.ofNat i ++ " is null")⟩],
        .error (.missingEntry which.name i)⟩

variable {preset : Preset}

theorem Logged.of_fails {field : Field} {failure : Failure} (fails : field.Fails failure) :
    Logged ⟨failure.record?.toList, .error failure⟩ := by
  cases fails with
  | graffiti fault => exact .field .graffiti (.graffiti fault) none
  | @mismatch _ m => exact .field field (.mismatch m) (Failure.leadingIndex? m.path)
  | missingEntry which i =>
      rw [Failure.record?, Text.ofInt_natCast]
      exact .missingEntry which i

theorem logged_of_decode (preset : Preset) (d : Document) : Logged (decode preset d) := by
  have course := course_decode preset d
  generalize decode preset d = report at course
  cases course with
  | @unsplit fault =>
      match fault with
      | .unsplit (.malformed why) => exact .malformed why
      | .unsplit (.unencodable fault) => exact .unencodable fault
      | .unknownField name => exact .unknownField name
  | reads => exact .body _
  | stops _ _ _ failed => exact .of_fails (Field.fails_of_read _ failed)

/-! ## Logging where a field is rejected -/

namespace Traced

variable {α β : Type}

def fail (failure : Failure) : Report Failure α := .ofExcept (.error failure)

/-- The index of the entry that a cause is about. -/
def entryIndex? : Failure → Option Int
  | .mismatch m => Failure.leadingIndex? m.path
  | _ => none

/-- Rejects a field for a cause. -/
def reject (name : Text) (cause : Failure) : Report Failure α := do
  .record (Failure.rejected name cause.message)
  fail (.field name (some cause) (entryIndex? cause))

/-- Rejects a field for its first null entry, if there is one. -/
def rejectMissing (name : Text) (entries : List (Option Value)) : Report Failure PUnit :=
  match firstNull? entries with
  | some i => do
      .record (Failure.rejected name ("entry " ++ Text.ofNat i ++ " is null"))
      fail (.missingEntry name i)
  | none => pure ⟨⟩

/-- Rejects a field for a mismatch. A type that has no shape is no fault of the field. -/
def attempted (name : Text) (read : Except Refusal α) : Report Failure α :=
  match read with
  | .ok a => pure a
  | .error (.mismatch m) => reject name (.mismatch m)
  | .error (.unsupported type) => fail (.unsupported type)

def readSingle (name : Text) (codec : Codec) (raw : Octets) : Report Failure Value := do
  let found ← attempted name (codec.decode (.octets raw))
  match found with
  | some value => pure value
  | none => reject name (.mismatch (.missing .valueMissing []))

def readGraffiti (name : Text) (raw : Octets) : Report Failure Value :=
  match Graffiti.decode raw with
  | .ok octets => pure (.bytes octets)
  | .error fault => reject name (.graffiti fault)

def readOperations (preset : Preset) (which : Operations) (raw : Octets) :
    Report Failure (List (Option Value)) := do
  let entries ← attempted which.name ((which.codec preset).decodeList (.octets raw))
  rejectMissing which.name entries
  pure entries

def listValue (preset : Preset) (name : Text) (entries : List (Option Value)) :
    Report Failure Value :=
  let limit := (limit? (type preset) name).getD 0
  if limit < entries.length then
    reject name (.mismatch (.invalid (.tooManyEntries entries.length limit)))
  else pure (.seq (entries.filterMap id))

def read (preset : Preset) (field : Field) (raw : Octets) : Report Failure Value :=
  match field with
  | .randaoReveal => readSingle field.name Body.randaoReveal raw
  | .graffiti => readGraffiti field.name raw
  | .required which => readSingle field.name (which.codec preset) raw
  | .operations which => do
      let entries ← readOperations preset which raw
      listValue preset field.name entries
  | .commitments => do
      let entries ← attempted field.name (commitment.decodeList (.octets raw))
      listValue preset field.name entries

def readField (preset : Preset) (raws : Keyed Octets) (values : Keyed Value) (field : Field) :
    Report Failure (Keyed Value) := do
  let value ← read preset field (rawOf raws field.name)
  pure (Keyed.insert values field.name value)

def decode (preset : Preset) (d : Document) : Report Failure Value := do
  let raws ← .ofExcept ((RawFields.splitDeclared (fieldNames preset) d).mapError .ofSplit)
  let values ← order.foldlM (readField preset raws) []
  pure (assemble (type preset).fields values)

/-! ## Both readings are one -/

/-- An outcome of any kind with the record its failure logs. -/
def told (outcome : Except Failure α) : Report Failure α :=
  match outcome with
  | .ok a => ⟨[], .ok a⟩
  | .error failure => ⟨failure.record?.toList, .error failure⟩

theorem told_eq_logged (outcome : Except Failure Value) : told outcome = logged outcome := by
  cases outcome <;> rfl

theorem told_bind (x : Except Failure α) (f : α → Except Failure β) :
    told (x >>= f) = told x >>= fun a => told (f a) := by
  cases x with
  | error failure => rfl
  | ok a =>
      change told (f a) = pure a >>= fun a => told (f a)
      rw [pure_bind]

theorem rejectMissing_eq (name : Text) (entries : List (Option Value)) :
    rejectMissing name entries =
      told (match firstNull? entries with
        | some i => .error (.missingEntry name i)
        | none => .ok ⟨⟩) := by
  rw [rejectMissing]
  cases firstNull? entries with
  | none => rfl
  | some i =>
      simp only [told, Failure.record?, Text.ofInt_natCast]
      rfl

theorem attempted_eq (name : Text) (read : Except Refusal α) :
    attempted name read = told (read.mapError (.blame name)) := by
  cases read with
  | ok a => rfl
  | error r => cases r <;> rfl

theorem readSingle_eq (name : Text) (codec : Codec) (raw : Octets) :
    readSingle name codec raw = told (Body.readSingle name codec raw) := by
  rw [readSingle, attempted_eq, Body.readSingle]
  cases codec.decode (.octets raw) with
  | error r => rfl
  | ok found => cases found <;> rfl

theorem readGraffiti_eq (name : Text) (raw : Octets) :
    readGraffiti name raw = told (Body.readGraffiti name raw) := by
  rw [readGraffiti, Body.readGraffiti]
  cases Graffiti.decode raw <;> rfl

theorem readOperations_eq (preset : Preset) (which : Operations) (raw : Octets) :
    readOperations preset which raw = told (Body.readOperations preset which raw) := by
  rw [readOperations, Body.readOperations, told_bind, readEntries, attempted_eq]
  congr 1
  funext entries
  rw [rejectMissing_eq]
  cases firstNull? entries <;> rfl

theorem listValue_eq (preset : Preset) (name : Text) (entries : List (Option Value)) :
    listValue preset name entries = told (Body.listValue preset name entries) := by
  simp only [listValue, Body.listValue]
  split <;> rfl

/-- Every field leaves the same records as the failure that comes of it. -/
theorem read_eq (preset : Preset) (field : Field) (raw : Octets) :
    read preset field raw = logged (field.read preset raw) := by
  rw [← told_eq_logged]
  cases field with
  | randaoReveal => exact readSingle_eq _ _ raw
  | graffiti => exact readGraffiti_eq _ raw
  | required which => exact readSingle_eq _ _ raw
  | operations which =>
      rw [read, readOperations_eq, Field.read, told_bind]
      simp only [listValue_eq]
  | commitments =>
      rw [read, attempted_eq, Field.read, told_bind, readEntries]
      simp only [listValue_eq]

theorem decode_eq (preset : Preset) (d : Document) : decode preset d = Body.decode preset d := by
  have step : readField preset = Body.readField preset := by
    funext raws values field
    rw [readField, Body.readField, read_eq]
  simp only [decode, Body.decode, readFields_eq, step]

end Traced

/-- Whatever the document, what is logged beside the outcome belongs there. Read with a record
made at each place where a field is rejected, it gives the same report. -/
theorem decode_logged (preset : Preset) (d : Document) :
    Logged (decode preset d) ∧ Traced.decode preset d = decode preset d :=
  ⟨logged_of_decode preset d, Traced.decode_eq preset d⟩

end BlockWire.Body
