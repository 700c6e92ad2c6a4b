/- # Reading a body with every partial operation in sight

The second reading of a body: values are read as in `Guarded`, and what is partial about
the body itself is a step that can break off too. The codecs of the fields and the types of
its lists are looked up by name; a list is made from entries that have to be there; a fixed
value may not be nothing; graffiti is ASCII before it is hex digits; a text is written as
octets again, which surrogates have none of; and the body is made from the values by name.

`decode_eq`: for every document without surrogates this comes to the reading itself, so no
operation breaks off whatever else the document is. The limits and the tables of a body are
settled by evaluation; the rest follows from the checks before each step. -/
import BlockWire.Proofs.Body.Order
import BlockWire.Proofs.RawFields.Declared
import BlockWire.Proofs.Wire.Guarded

namespace BlockWire.Body.Guarded

set_option autoImplicit false

open BlockWire.Guarded (raise attempt make lift)

/-- A step of the first reading, in which nothing breaks off. -/
def plain {ε α : Type} (x : Except ε α) : Except (Halt ε) α := x.mapError .raised

/-- A mismatch that is found while a field is read is put down to the field. -/
def caught {α : Type} (name : Text) (x : Except (Halt Mismatch) α) : Except (Halt Failure) α :=
  x.mapError (.map fun m => .blame name (.mismatch m))

/-! ## One field -/

def readFixed (name : Text) (codec : Codec) (raw : Octets) : Except (Halt Failure) Value := do
  let found ← caught name (BlockWire.Guarded.decode codec (.octets raw))
  attempt .entry found

def requiredCodecs (preset : Preset) : Keyed Codec :=
  Required.all.map fun which => (which.name, which.codec preset)

def readRequired (preset : Preset) (name : Text) (raw : Octets) :
    Except (Halt Failure) Value := do
  let codec ← attempt (.member name) (Keyed.get? (requiredCodecs preset) name)
  let found ← caught name (BlockWire.Guarded.decode codec (.octets raw))
  match found with
  | some value => .ok value
  | none => raise (.blame name (.mismatch (.missing .valueMissing [])))

/-- An octet that counts as a hex digit. -/
def isHexOctet (b : UInt8) : Bool := Hex.isDigit (.ofNat b.toNat)

/-- Octets as text, if all of them are ASCII. -/
def ascii? (octets : Octets) : Option Text :=
  if octets.all fun b => b.toNat < 0x80 then some (Graffiti.codes octets) else none

def graffiti (raw : Octets) : Except (Halt GraffitiFault) Value :=
  if !Graffiti.opening.isPrefixOf raw then raise .start
  else if !Graffiti.closing.isSuffixOf raw then raise .ending
  else if raw.length ≠ Graffiti.writtenSize then raise .length
  else
    let digits := (raw.drop Graffiti.opening.length).take (2 * Graffiti.size)
    if !digits.all isHexOctet then
      raise (.digits (some (Text.quoted (Utf8.decodeLossy digits))))
    else do
      let text ← attempt .ascii (ascii? digits)
      let octets ← attempt .octets (Hex.decode text)
      if octets.length ≠ Graffiti.size then raise .length
      else make Schema.bytes32 (.bytes octets)

def readGraffiti (name : Text) (raw : Octets) : Except (Halt Failure) Value :=
  (graffiti raw).mapError (.map fun fault => .field name (some (.graffiti fault)) none)

def operationCodecs (preset : Preset) : Keyed Codec :=
  Operations.all.map fun which => (which.name, which.codec preset)

def readEntries (name : Text) (codec : Codec) (raw : Octets) :
    Except (Halt Failure) (List (Option Value)) :=
  caught name (BlockWire.Guarded.decodeList codec (.octets raw))

def readOperations (preset : Preset) (name : Text) (raw : Octets) :
    Except (Halt Failure) (List (Option Value)) := do
  let codec ← attempt (.member name) (Keyed.get? (operationCodecs preset) name)
  let entries ← readEntries name codec raw
  match firstNull? entries with
  | some i => raise (.missingEntry name i)
  | none => .ok entries

def listLimit? : Ty → Option Nat
  | .list _ limit => some limit
  | _ => none

/-- All entries, if none of them is nothing. -/
def allThere? (entries : List (Option Value)) : Option (List Value) := entries.mapM id

def listValue (preset : Preset) (name : Text) (entries : List (Option Value)) :
    Except (Halt Failure) Value := do
  let declared ← attempt (.member name) (Keyed.get? (type preset).fields name)
  let limit ← attempt (.member name) (listLimit? declared)
  if limit < entries.length then
    raise (.blame name (.invalid (.tooManyEntries entries.length limit)))
  else do
    let values ← attempt .entry (allThere? entries)
    make declared (.seq values)

def read (preset : Preset) (field : Field) (raw : Octets) : Except (Halt Failure) Value :=
  match field with
  | .randaoReveal => readFixed field.name Body.randaoReveal raw
  | .graffiti => readGraffiti field.name raw
  | .required which => readRequired preset which.name raw
  | .operations which => do
      let entries ← readOperations preset which.name raw
      listValue preset which.name entries
  | .commitments => do
      let entries ← readEntries field.name commitment raw
      listValue preset field.name entries

/-! ## The whole document -/

/-- Why splitting stops. Where a value has no octets, writing them breaks off. -/
def unsplit : RawFields.Fault → Halt Failure
  | .unsplit (.unencodable _) => .broken .surrogate
  | fault => .raised (.ofSplit fault)

def split (preset : Preset) (d : Document) : Except (Halt Failure) (Keyed Octets) :=
  (RawFields.splitDeclared (fieldNames preset) d).mapError unsplit

def readField (preset : Preset) (raws : Keyed Octets) (values : Keyed Value) (field : Field) :
    Except (Halt Failure) (Keyed Value) := do
  let value ← read preset field (rawOf raws field.name)
  .ok (Keyed.insert values field.name value)

/-- The body of values by name, each of which has to be a declared field. -/
def makeBody (preset : Preset) (values : Keyed Value) : Except (Halt Failure) Value :=
  match Keyed.firstUnknown? (fieldNames preset) values with
  | some key => .error (.broken (.member key))
  | none => make (type preset) (assemble (type preset).fields values)

def decode (preset : Preset) (d : Document) : Except (Halt Failure) Value := do
  let raws ← split preset d
  let values ← order.foldlM (readField preset raws) []
  makeBody preset values

/-! ## Steps -/

section

variable {ε α β : Type}

theorem plain_bind (x : Except ε α) (f : α → Except ε β) :
    plain (x >>= f) = plain x >>= fun a => plain (f a) := by cases x <;> rfl

end

/-- What is caught of a reading that refuses no type is put down to the field. -/
theorem caught_lift {α : Type} {name : Text} {x : Except Refusal α} (shaped : Shaped x) :
    caught name (lift x) = plain (x.mapError (.blame name)) := by
  cases x with
  | ok a => rfl
  | error r =>
      obtain ⟨m, rfl⟩ := shaped r rfl
      rfl

/-- The type of a codec can be read and its numbers at once. -/
structure Readable (codec : Codec) : Prop where
  supported : codec.type.isSupported = true
  narrow : codec.type.isNarrow = true

theorem caught_decode {codec : Codec} (readable : Readable codec) (name : Text) (d : Document) :
    caught name (BlockWire.Guarded.decode codec d) =
      plain ((codec.decode d).mapError (.blame name)) := by
  rw [BlockWire.Guarded.decode_eq readable.supported readable.narrow]
  exact caught_lift (Codec.decode_shaped readable.supported d)

theorem readEntries_eq {codec : Codec} (readable : Readable codec) (name : Text) (raw : Octets) :
    readEntries name codec raw = plain (Body.readEntries name codec raw) := by
  rw [readEntries, BlockWire.Guarded.decodeList_eq readable.supported readable.narrow]
  exact caught_lift (Codec.decodeList_shaped readable.supported _)

theorem readable_required (preset : Preset) (which : Required) : Readable (which.codec preset) := by
  constructor <;> cases preset <;> cases which <;> decide +kernel

theorem readable_operations (preset : Preset) (which : Operations) :
    Readable (which.codec preset) := by
  constructor <;> cases preset <;> cases which <;> decide +kernel

theorem readable_ofLength (length : Nat) : Readable (.ofLength length) := ⟨rfl, rfl⟩

/-! ## Every field comes to the first reading -/

/-- Fixed octets are never nothing. -/
theorem decode_ne_none {codec : Codec} (strict : codec.takesNull = false) (d : Document) :
    codec.decode d ≠ .ok none := by
  intro decoded
  obtain ⟨j, -, read⟩ := bind_eq_ok.1 decoded
  obtain ⟨v, same⟩ := Codec.exists_value_of_fromJson strict read
  simp at same

theorem readFixed_eq {codec : Codec} (readable : Readable codec)
    (strict : codec.takesNull = false) (name : Text) (raw : Octets) :
    readFixed name codec raw = plain (readSingle name codec raw) := by
  rw [readFixed, caught_decode readable, readSingle]
  cases decoded : codec.decode (.octets raw) with
  | error r => rfl
  | ok found =>
      cases found with
      | some value => rfl
      | none => exact absurd decoded (decode_ne_none strict _)

theorem readRequired_eq (preset : Preset) (which : Required) (raw : Octets) :
    readRequired preset which.name raw =
      plain (readSingle which.name (which.codec preset) raw) := by
  have known : Keyed.get? (requiredCodecs preset) which.name = some (which.codec preset) := by
    cases which <;> rfl
  rw [readRequired, known, readSingle]
  change (caught _ _ >>= _) = _
  rw [caught_decode (readable_required preset which)]
  cases (which.codec preset).decode (.octets raw) with
  | error r => rfl
  | ok found => cases found <;> rfl

theorem codes_all_isDigit (octets : Octets) :
    (Graffiti.codes octets).all Hex.isDigit = octets.all isHexOctet := by
  rw [Graffiti.codes, List.all_map]
  rfl

theorem ascii?_eq {octets : Octets} (digits : octets.all isHexOctet = true) :
    ascii? octets = some (Graffiti.codes octets) := by
  refine if_pos (List.all_eq_true.2 fun b mem => ?_)
  have bound := b.toNat_lt
  have high := (Hex.bounds_of_isDigit (List.all_eq_true.1 digits b mem)).2.2.2
  rw [CodePoint.val_ofNat (by omega)] at high
  rw [decide_eq_true_eq]
  omega

theorem graffiti_eq (raw : Octets) :
    graffiti raw = plain ((Graffiti.decode raw).map Value.bytes) := by
  unfold graffiti Graffiti.decode
  split
  · rfl
  split
  · rfl
  split
  · rfl
  next exact =>
    simp only
    generalize shape : (raw.drop Graffiti.opening.length).take (2 * Graffiti.size) = digits
    have size : (Graffiti.codes digits).length % 2 = 0 := by
      have count : raw.length = Graffiti.opening.length + 2 * Graffiti.size +
          Graffiti.closing.length := Decidable.not_not.1 exact
      rw [Graffiti.codes, List.length_map, ← shape, List.length_take, List.length_drop]
      omega
    have unspelled := Hex.decode_eq_none_iff size
    rw [codes_all_isDigit] at unspelled
    cases digital : digits.all isHexOctet with
    | false =>
        rw [unspelled.2 digital]
        rfl
    | true =>
        rw [ascii?_eq digital]
        cases decoded : Hex.decode (Graffiti.codes digits) with
        | none => simp [unspelled.1 decoded] at digital
        | some octets =>
            rw [if_neg (by simp), BlockWire.Guarded.attempt_some]
            simp only [bind, Except.bind, decoded, BlockWire.Guarded.attempt_some]
            by_cases long : octets.length ≠ Graffiti.size
            · rw [if_pos long, if_pos long]
              rfl
            · rw [if_neg long, if_neg long]
              exact BlockWire.Guarded.make_of_fits (.byteVector (Decidable.not_not.1 long))

theorem readGraffiti_eq (name : Text) (raw : Octets) :
    readGraffiti name raw = plain (Body.readGraffiti name raw) := by
  rw [readGraffiti, graffiti_eq, Body.readGraffiti]
  cases Graffiti.decode raw <;> rfl

theorem readOperations_eq (preset : Preset) (which : Operations) (raw : Octets) :
    readOperations preset which.name raw = plain (Body.readOperations preset which raw) := by
  have known : Keyed.get? (operationCodecs preset) which.name = some (which.codec preset) := by
    cases which <;> rfl
  rw [readOperations, known, Body.readOperations, plain_bind,
    ← readEntries_eq (readable_operations preset which)]
  change (readEntries which.name (which.codec preset) raw >>= _) = _
  refine congrArg _ (funext fun entries => ?_)
  cases firstNull? entries <;> rfl

theorem allThere?_map (values : List Value) : allThere? (values.map some) = some values := by
  induction values with
  | nil => rfl
  | cons v rest ih =>
      rw [allThere?, List.map_cons, List.mapM_cons]
      rw [allThere?] at ih
      rw [ih]
      rfl

/-- Making a list refuses nothing once its entries have been counted. -/
theorem listValue_eq {preset : Preset} {field : Field} {codec : Codec} {limit : Nat}
    (listed : field.type preset = .list codec.type limit) (notBytes : codec.type.isByte = false)
    {values : List Value} (each : Value.FitsEach codec.type values) :
    listValue preset field.name (values.map some) =
      plain (Body.listValue preset field.name (values.map some)) := by
  have declared : Keyed.get? (type preset).fields field.name = some (.list codec.type limit) := by
    rw [declared_eq, get?_map nodup_names (fun field => field.type preset) (mem_order field),
      listed]
  have looked : (limit? (type preset) field.name).getD 0 = limit := by
    rw [limit?, declared]
    rfl
  rw [listValue, declared, Body.listValue, looked]
  change (if _ then _ else _) = plain (if _ then _ else _)
  rw [List.length_map]
  by_cases many : limit < values.length
  · rw [if_pos many, if_pos many]
    rfl
  · have collected : (values.map some).filterMap id = values := by
      rw [List.filterMap_map]
      exact List.filterMap_some
    rw [if_neg many, if_neg many, allThere?_map, collected]
    exact BlockWire.Guarded.make_of_fits (.list notBytes (Nat.not_lt.1 many) each)

/-- What a codec reads as a list of values are values of its type. -/
theorem fitsEach_of_decodeList {codec : Codec} {d : Document} {values : List Value}
    (decoded : codec.decodeList d = .ok (values.map some)) :
    Value.FitsEach codec.type values := by
  obtain ⟨j, -, read⟩ := bind_eq_ok.1 decoded
  obtain ⟨items, -, each⟩ := listFromJson_eq_ok.1 read
  have denoted := Wire.denotesEach_iff.2 (each.imp fun _ _ => (Wire.fromJson_eq_ok _ _ _).1)
  exact Wire.fitsEach_of_denotes (fun _ _ here => here.fits) denoted

theorem read_eq (preset : Preset) (field : Field) (raw : Octets) :
    read preset field raw = plain (field.read preset raw) := by
  cases field with
  | randaoReveal => exact readFixed_eq (readable_ofLength 96) rfl _ raw
  | graffiti => exact readGraffiti_eq _ raw
  | required which => exact readRequired_eq preset which raw
  | operations which =>
      rw [read, readOperations_eq, Field.read, plain_bind]
      cases found : Body.readOperations preset which raw with
      | error failure => rfl
      | ok entries =>
          obtain ⟨values, rfl, decoded⟩ := readOperations_eq_ok.1 found
          have listed : Field.type preset (.operations which) =
              .list (which.codec preset).type ((limit? (type preset) which.name).getD 0) := rfl
          exact listValue_eq listed (notBytes_codec preset which) (fitsEach_of_decodeList decoded)
  | commitments =>
      have readable : Readable commitment := readable_ofLength 48
      rw [read, readEntries_eq readable, Field.read, plain_bind]
      cases found : Body.readEntries Field.commitments.name commitment raw with
      | error failure => rfl
      | ok entries =>
          have decoded := readEntries_eq_ok.1 found
          obtain ⟨values, rfl⟩ := exists_values_of_decodeList rfl decoded
          have listed : Field.type preset .commitments =
              .list commitment.type ((limit? (type preset) Field.commitments.name).getD 0) := rfl
          exact listValue_eq listed rfl (fitsEach_of_decodeList decoded)

/-! ## The whole document comes to the first reading -/

theorem split_eq (preset : Preset) {d : Document} (whole : d.IsPlain) :
    split preset d =
      plain ((RawFields.splitDeclared (fieldNames preset) d).mapError .ofSplit) := by
  rw [split]
  cases parted : RawFields.splitDeclared (fieldNames preset) d with
  | ok raws => rfl
  | error fault =>
      match fault with
      | .unknownField name => rfl
      | .unsplit (.malformed why) => rfl
      | .unsplit (.unencodable fault) =>
          have failed := RawFields.splitDeclared_eq_unsplit.1 parted
          exact absurd failed (RawFields.split_ne_unencodable whole fault)

variable {preset : Preset} {raws : Keyed Octets}

theorem readField_eq (values : Keyed Value) (field : Field) :
    readField preset raws values field = plain (Body.readField preset raws values field).outcome := by
  rw [readField, read_eq, Body.readField, Report.outcome_bind, plain_bind]
  cases field.read preset (rawOf raws field.name) <;> rfl

theorem foldlM_eq (fs : List Field) (values : Keyed Value) :
    fs.foldlM (readField preset raws) values =
      plain (fs.foldlM (Body.readField preset raws) values).outcome := by
  induction fs generalizing values with
  | nil => rfl
  | cons field rest ih =>
      rw [List.foldlM_cons, List.foldlM_cons, Report.outcome_bind, plain_bind, readField_eq]
      exact congrArg _ (funext ih)

theorem fitsFields_order {fs : List Field} {val : Field → Value}
    (fits : ∀ field ∈ fs, Value.Fits (field.type preset) (val field)) :
    Value.FitsFields (fs.map fun field => (field.name, field.type preset))
      (fs.map fun field => (field.name, val field)) := by
  induction fs with
  | nil => exact .nil
  | cons field rest ih =>
      obtain ⟨here, later⟩ := List.forall_mem_cons.1 fits
      exact .cons here (ih later)

/-- What is read is a value of the body type. -/
theorem fits_of_reads {val : Field → Value}
    (reads : ∀ field : Field, field.read preset (rawOf raws field.name) = .ok (val field)) :
    Value.Fits (type preset) (.record (order.map fun field => (field.name, val field))) := by
  rw [type_eq]
  refine .container (fitsFields_order fun field _ => ?_)
  obtain ⟨-, j, -, read⟩ := Field.read_eq_ok.1 (reads field)
  exact ((Wire.fromJson_eq_ok _ _ _).1 read).fits

theorem makeBody_of_reads {val : Field → Value}
    (reads : ∀ field : Field, field.read preset (rawOf raws field.name) = .ok (val field)) :
    makeBody preset (order.map fun field => (field.name, val field)) =
      .ok (.record (order.map fun field => (field.name, val field))) := by
  have known : Keyed.firstUnknown? (fieldNames preset)
      (order.map fun field => (field.name, val field)) = none := by
    rw [Keyed.firstUnknown?_eq_none, keys_map, names_eq]
    exact fun key mem => mem
  rw [makeBody, known]
  simp only
  rw [assemble_eq]
  exact BlockWire.Guarded.make_of_fits (fits_of_reads reads)

/-- In a document without surrogates no operation breaks off, and both readings end alike. -/
theorem decode_eq (preset : Preset) {d : Document} (whole : d.IsPlain) :
    decode preset d = plain (Body.decode preset d).outcome := by
  rw [decode, split_eq preset whole]
  cases parted : RawFields.splitDeclared (fieldNames preset) d with
  | error fault =>
      rw [Body.decode, parted]
      rfl
  | ok raws =>
      rw [decode_of_split parted, Report.outcome_bind, plain_bind, readFields_eq]
      change (order.foldlM (readField preset raws) [] >>= _) = _
      rw [foldlM_eq, ← readFields_eq]
      rcases accepts_or_first preset raws order with
        all | ⟨before, field, after, failure, whole, earlier, failed⟩
      · choose val reads using fun field => all field (mem_order field)
        rw [readFields_of_reads reads]
        change makeBody preset (order.map fun field => (field.name, val field)) =
          plain (.ok (assemble (type preset).fields
            (order.map fun field => (field.name, val field))))
        rw [makeBody_of_reads reads, assemble_eq]
        rfl
      · rw [readFields_of_first whole earlier failed]
        rfl

end BlockWire.Body.Guarded
