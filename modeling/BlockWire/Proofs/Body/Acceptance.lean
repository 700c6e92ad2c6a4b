/- # What the reading of a body accepts

A body is read field by field from raw octets. `decode_accepts_exactly` says that this
accepts what the strict reading of the whole type accepts, with two differences: a list
field that is absent or null is read as an empty list (`withEmptyLists`), and graffiti
has to be spelled literally (`IsLiteral`).

The raw fields and the members of the document hold the same values
(`RawFields.Holds`), and each field takes from its octets what its type takes from the
member, so the two readings go through the fields side by side. -/
import BlockWire.Proofs.Body.Order
import BlockWire.Proofs.RawFields.Split

namespace BlockWire.Body

set_option autoImplicit false

/-! ## Empty lists -/

/-- The six lists of operations and the blob commitments. -/
def listFields : List Field := Operations.all.map .operations ++ [.commitments]

def fillList (members : Keyed Json) (field : Field) : Keyed Json :=
  match Keyed.get? members field.name with
  | none => Keyed.insert members field.name (.arr [])
  | some .null => Keyed.insert members field.name (.arr [])
  | some _ => members

/-- An object with an empty list for each list field that is absent or null. -/
def withEmptyLists (members : Keyed Json) : Keyed Json := listFields.foldl fillList members

theorem nullAsEmpty_idem (j : Json) : nullAsEmpty (nullAsEmpty j) = nullAsEmpty j := by
  cases j <;> rfl

/-- What a list field holds, if nothing counts as null. -/
def filled (members : Keyed Json) (name : Text) : Json :=
  nullAsEmpty ((Keyed.get? members name).getD .null)

theorem get?_fillList (members : Keyed Json) (field : Field) (key : Text) :
    Keyed.get? (fillList members field) key =
      if field.name = key then some (filled members key) else Keyed.get? members key := by
  unfold fillList filled
  split
  next absent =>
    rw [Keyed.get?_insert]
    split
    next same => rw [← same, absent]; rfl
    · rfl
  next null =>
    rw [Keyed.get?_insert]
    split
    next same => rw [← same, null]; rfl
    · rfl
  next j notNull present =>
    split
    next same =>
      rw [← same, present, Option.getD_some]
      cases j with
      | null => exact absurd rfl notNull
      | _ => rfl
    · rfl

theorem get?_foldl_fillList (fs : List Field) (members : Keyed Json) (key : Text) :
    Keyed.get? (fs.foldl fillList members) key =
      if key ∈ fs.map Field.name then some (filled members key) else Keyed.get? members key := by
  induction fs generalizing members with
  | nil => simp
  | cons field rest ih =>
      rw [List.foldl_cons, ih, filled, get?_fillList]
      by_cases same : field.name = key
      · subst same
        simp [filled, nullAsEmpty_idem]
      · simp [same, Ne.symm same, filled]

theorem mem_keys_withEmptyLists {members : Keyed Json} {key : Text} :
    key ∈ Keyed.keys (withEmptyLists members) ↔
      key ∈ Keyed.keys members ∨ key ∈ listFields.map Field.name := by
  have absent := get?_foldl_fillList listFields members key
  rw [← Decidable.not_iff_not, ← Keyed.get?_eq_none_iff, withEmptyLists, absent, not_or,
    ← Keyed.get?_eq_none_iff]
  by_cases listed : key ∈ listFields.map Field.name <;> simp [listed]

def Field.isList : Field → Bool
  | .operations _ => true
  | .commitments => true
  | _ => false

theorem mem_listNames (field : Field) :
    field.name ∈ listFields.map Field.name ↔ field.isList = true := by
  cases field with
  | required which => cases which <;> decide +kernel
  | operations which => cases which <;> decide +kernel
  | _ => decide +kernel

theorem presented_eq (field : Field) (j : Json) :
    field.presented j = if field.isList then nullAsEmpty j else j := by
  cases field <;> rfl

/-- What the whole type is given for a field. -/
theorem get?_withEmptyLists (members : Keyed Json) (field : Field) :
    Keyed.get? (withEmptyLists members) field.name =
      if field.isList then some (filled members field.name)
      else Keyed.get? members field.name := by
  rw [withEmptyLists, get?_foldl_fillList]
  simp only [mem_listNames]

variable {preset : Preset}

/-! ## Field by field -/

theorem load_nullOctets : Json.load (.octets nullOctets) = .ok .null :=
  Json.load_encode (.null _)

theorem not_isLiteral_nullOctets : ¬ IsLiteral nullOctets := by
  rintro ⟨digits, -, -, same⟩
  have first : some (110 : UInt8) = some 34 := congrArg List.head? same
  exact absurd (Option.some.inj first) (by decide)

/-- The graffiti field is there, in its literal spelling. -/
def HasLiteralGraffiti (raws : Keyed Octets) : Prop :=
  ∃ raw, Keyed.get? raws "graffiti" = some raw ∧ IsLiteral raw

theorem isLiteral_rawOf (raws : Keyed Octets) :
    IsLiteral (rawOf raws Field.graffiti.name) ↔ HasLiteralGraffiti raws := by
  rw [Field.name, rawOf, HasLiteralGraffiti]
  cases Keyed.get? raws "graffiti" with
  | none => simp [not_isLiteral_nullOctets]
  | some raw => simp

/-- A field takes from its octets what its type takes from the member. -/
theorem read_rawOf_eq_ok {raws : Keyed Octets} {members : Keyed Json}
    (related : Keyed.Related RawFields.Holds raws members) {field : Field} {v : Value} :
    field.read preset (rawOf raws field.name) = .ok v ↔
      (field = .graffiti → HasLiteralGraffiti raws) ∧
        ∃ j, Keyed.get? (withEmptyLists members) field.name = some j ∧
          Wire.fromJson (field.type preset) j = .ok v := by
  have literal : (field = .graffiti → IsLiteral (rawOf raws field.name)) ↔
      (field = .graffiti → HasLiteralGraffiti raws) := by
    refine forall_congr' fun isGraffiti => ?_
    rw [isGraffiti, isLiteral_rawOf]
  rw [Field.read_eq_ok, literal, get?_withEmptyLists, rawOf]
  refine and_congr_right fun _ => ?_
  simp only [presented_eq, filled]
  cases found : Keyed.get? raws field.name with
  | none =>
      rw [related.get?_none found, Option.getD_none, load_nullOctets]
      split
      · simp
      · simp [Wire.fromJson_null]
  | some raw =>
      obtain ⟨j, member, holds⟩ := related.get?_left found
      rw [member, Option.getD_some, holds.load]
      split
      · simp
      · simp

/-! ## The whole body -/

theorem fieldsFromJson_of_each {fs : List Field} {members : Keyed Json} {val : Field → Value}
    (each : ∀ field ∈ fs, ∃ j, Keyed.get? members field.name = some j ∧
      Wire.fromJson (field.type preset) j = .ok (val field)) :
    Wire.fieldsFromJson (fs.map fun field => (field.name, field.type preset)) members =
      .ok (fs.map fun field => (field.name, val field)) := by
  induction fs with
  | nil => rfl
  | cons field rest ih =>
      obtain ⟨⟨j, found, here⟩, later⟩ := List.forall_mem_cons.1 each
      exact Wire.fieldsFromJson_cons.2 ⟨j, val field, _, found, here, ih later, rfl⟩

theorem each_of_fieldsFromJson {fs : List Field} {members : Keyed Json}
    {values : List (Text × Value)}
    (read : Wire.fieldsFromJson (fs.map fun field => (field.name, field.type preset)) members =
      .ok values) :
    ∀ field ∈ fs, ∃ v j, Keyed.get? members field.name = some j ∧
      Wire.fromJson (field.type preset) j = .ok v := by
  induction fs generalizing values with
  | nil => simp
  | cons field rest ih =>
      rw [List.map_cons, Wire.fieldsFromJson_cons] at read
      obtain ⟨j, v, vs, found, here, later, -⟩ := read
      exact List.forall_mem_cons.2 ⟨⟨v, j, found, here⟩, ih later⟩

theorem fieldsFromJson_order {members : Keyed Json} {values : List (Text × Value)} :
    Wire.fieldsFromJson (order.map fun field => (field.name, field.type preset)) members =
        .ok values ↔
      ∃ val : Field → Value,
        (∀ field : Field, ∃ j, Keyed.get? members field.name = some j ∧
          Wire.fromJson (field.type preset) j = .ok (val field)) ∧
        values = order.map fun field => (field.name, val field) := by
  constructor
  · intro read
    have each := each_of_fieldsFromJson read
    choose val reads using fun field => each field (mem_order field)
    rw [fieldsFromJson_of_each fun field _ => reads field] at read
    exact ⟨val, reads, (Except.ok.inj read).symm⟩
  · rintro ⟨val, reads, rfl⟩
    exact fieldsFromJson_of_each fun field _ => reads field

theorem fromJson_type_eq_ok {members : Keyed Json} {b : Value} :
    Wire.fromJson (type preset) (.obj members) = .ok b ↔
      (∀ key ∈ Keyed.keys members, key ∈ fieldNames preset) ∧
        ∃ val : Field → Value,
          (∀ field : Field, ∃ j, Keyed.get? members field.name = some j ∧
            Wire.fromJson (field.type preset) j = .ok (val field)) ∧
          b = .record (order.map fun field => (field.name, val field)) := by
  have names : (order.map fun field => (field.name, field.type preset)).map Prod.fst =
      fieldNames preset := by
    rw [fieldNames, declared_eq]
  simp only [type_eq, Wire.fromJson, Wire.present_eq_ok, bind_eq_ok, Wire.declaredMembers_eq_ok,
    map_eq_ok, fieldsFromJson_order, names]
  constructor
  · rintro ⟨-, _, ⟨⟨⟩, known⟩, values, ⟨val, each, rfl⟩, rfl⟩
    exact ⟨known, val, each, rfl⟩
  · rintro ⟨known, val, each, rfl⟩
    exact ⟨by simp, members, ⟨rfl, known⟩, _, ⟨val, each, rfl⟩, rfl⟩

theorem listNames_subset {key : Text} (listed : key ∈ listFields.map Field.name) :
    key ∈ fieldNames preset := by
  obtain ⟨field, -, rfl⟩ := List.mem_map.1 listed
  rw [names_eq]
  exact List.mem_map_of_mem (mem_order field)

/-- Empty lists add no key that is not declared. -/
theorem known_withEmptyLists {members : Keyed Json}
    (known : ∀ key ∈ Keyed.keys members, key ∈ fieldNames preset) :
    ∀ key ∈ Keyed.keys (withEmptyLists members), key ∈ fieldNames preset := by
  intro key mem
  rcases mem_keys_withEmptyLists.1 mem with inMembers | listed
  · exact known key inMembers
  · exact listNames_subset listed

/-- Reading the raw fields and reading the members take the same bodies, but for
graffiti. -/
theorem reads_iff {raws : Keyed Octets} {members : Keyed Json}
    (related : Keyed.Related RawFields.Holds raws members)
    (known : ∀ key ∈ Keyed.keys members, key ∈ fieldNames preset) {b : Value} :
    (∃ val : Field → Value,
        (∀ field : Field, field.read preset (rawOf raws field.name) = .ok (val field)) ∧
        b = .record (order.map fun field => (field.name, val field))) ↔
      HasLiteralGraffiti raws ∧
        Wire.fromJson (type preset) (.obj (withEmptyLists members)) = .ok b := by
  rw [fromJson_type_eq_ok, and_iff_right (known_withEmptyLists known)]
  constructor
  · rintro ⟨val, reads, rfl⟩
    have literal := ((read_rawOf_eq_ok related).1 (reads .graffiti)).1 rfl
    exact ⟨literal, val, fun field => ((read_rawOf_eq_ok related).1 (reads field)).2, rfl⟩
  · rintro ⟨literal, val, each, rfl⟩
    exact ⟨val, fun field => (read_rawOf_eq_ok related).2 ⟨fun _ => literal, each field⟩, rfl⟩

/-- The reading of a body accepts exactly the documents that are one object with no
undeclared key and literal graffiti, and that the strict reading of the whole type
accepts once absent and null list fields are empty lists; and it gives the same body.
The document's text has to be text, and its values may not nest deeper than reading can
follow. -/
theorem decode_accepts_exactly (preset : Preset) {d : Document} {t : Text}
    (isText : RawFields.text d = .ok t) {depth : Nat} (le : depth ≤ Json.depthLimit)
    (nests : Json.NestsWithin depth t) (b : Value) :
    (decode preset d).outcome = .ok b ↔
      ∃ members raws, Json.parse t = .ok (.obj members) ∧
        (∀ key ∈ Keyed.keys members, key ∈ fieldNames preset) ∧
        RawFields.split d = .ok raws ∧ HasLiteralGraffiti raws ∧
        Wire.fromJson (type preset) (.obj (withEmptyLists members)) = .ok b := by
  have split {raws : Keyed Octets} :
      RawFields.split d = .ok raws ↔ RawFields.splitText t = .ok raws := by
    rw [RawFields.split_eq_ok]
    simp [isText]
  rw [decode_outcome_eq_ok]
  simp only [RawFields.splitDeclared_eq_ok, split]
  constructor
  · rintro ⟨raws, ⟨parted, known⟩, read⟩
    obtain ⟨members, parsed, related⟩ := RawFields.parse_of_splitText le nests parted
    rw [related.keys_eq] at known
    obtain ⟨literal, whole⟩ := (reads_iff related known).1 read
    exact ⟨members, raws, parsed, known, parted, literal, whole⟩
  · rintro ⟨members, raws, parsed, known, parted, literal, whole⟩
    have related := RawFields.related_of_parse parted parsed
    refine ⟨raws, ⟨parted, by rwa [related.keys_eq]⟩, ?_⟩
    exact (reads_iff related known).2 ⟨literal, whole⟩

/-- So many octets of zero, in quotes. -/
def zeros (count : Nat) : Text :=
  let digits : Text := List.replicate (2 * count) (.ofChar '0')
  "\"0x" ++ digits ++ "\""

/-- An object without blanks, or with its members the other way round and blanks between. -/
def laidOut (turned : Bool) (members : List (Text × Text)) : Text :=
  let colon : Text := if turned then "\" :\t" else "\":"
  let parts := members.map fun member => "\"" ++ member.1 ++ colon ++ member.2
  let separator : Text := if turned then " ,\n" else ","
  "\x7b" ++ Text.join separator (if turned then parts.reverse else parts) ++ "\x7d"

/-- A body in which nothing happens. Turned, it begins with a key that stands there again
later and is escaped. -/
def quietText (turned : Bool) : Text :=
  let members : List (Text × Text) :=
    [("randao_reveal", zeros 96),
      ("eth1_data", laidOut turned
        [("deposit_root", zeros 32), ("deposit_count", "\"0\""), ("block_hash", zeros 32)]),
      ("graffiti", zeros 32), ("proposer_slashings", "[]"), ("attester_slashings", "[]"),
      ("attestations", "[]"), ("deposits", "[]"), ("voluntary_exits", "[]"),
      ("sync_aggregate", laidOut turned
        [("sync_committee_bits", zeros 4), ("sync_committee_signature", zeros 96)]),
      ("execution_payload", laidOut turned
        [("parent_hash", zeros 32), ("fee_recipient", zeros 20), ("state_root", zeros 32),
          ("receipts_root", zeros 32), ("logs_bloom", zeros 256), ("prev_randao", zeros 32),
          ("block_number", "\"0\""), ("gas_limit", "\"0\""), ("gas_used", "\"0\""),
          ("timestamp", "\"0\""), ("extra_data", zeros 0), ("base_fee_per_gas", "\"0\""),
          ("block_hash", zeros 32), ("transactions", "[]"), ("withdrawals", "[]"),
          ("blob_gas_used", "\"0\""), ("excess_blob_gas", "\"0\"")]),
      ("bls_to_execution_changes", "[]"), ("blob_kzg_commitments", "[]"),
      ("execution_requests", laidOut turned
        [("deposits", "[]"), ("withdrawals", "[]"), ("consolidations", "[]")])]
  let repeated : List (Text × Text) := [("depos\\u0069ts", "[null]")]
  laidOut turned (if turned then members ++ repeated else members)

def quiet (turned : Bool) : Document := .octets (Utf8.encode (quietText turned))

/-- One evaluation for all, since the text is long. -/
theorem quiet_accepted :
    (decode .minimal (quiet false)).outcome.isOk = true ∧
      (∀ c ∈ quietText false, c.isSurrogate = false) ∧ Json.NestsWithin 400 (quietText false) := by
  have checked : ((decode .minimal (quiet false)).outcome.isOk &&
      ((quietText false).all (fun c => !c.isSurrogate) &&
        (Json.scanValue 400 (Json.skipBlanks (quietText false))).isOk)) = true := by
    decide +kernel
  simp only [Bool.and_eq_true, List.all_eq_true, Bool.not_eq_true'] at checked
  obtain ⟨accepted, plain, scanned⟩ := checked
  refine ⟨accepted, plain, fun failed => ?_⟩
  rw [failed] at scanned
  cases scanned

theorem decode_accepts_exactly_quiet :
    RawFields.text (quiet false) = .ok (quietText false) ∧ 400 ≤ Json.depthLimit ∧
      Json.NestsWithin 400 (quietText false) ∧
      ∃ b, (decode .minimal (quiet false)).outcome = .ok b ∧
        ∃ members raws, Json.parse (quietText false) = .ok (.obj members) ∧
          (∀ key ∈ Keyed.keys members, key ∈ fieldNames .minimal) ∧
          RawFields.split (quiet false) = .ok raws ∧ HasLiteralGraffiti raws ∧
          Wire.fromJson (type .minimal) (.obj (withEmptyLists members)) = .ok b := by
  obtain ⟨accepted, plain, nests⟩ := quiet_accepted
  have isText : RawFields.text (quiet false) = .ok (quietText false) :=
    RawFields.text_octets_eq_ok.2 ⟨rfl, plain⟩
  obtain ⟨b, read⟩ := exists_of_isOk accepted
  exact ⟨isText, by decide, nests, b, read,
    (decode_accepts_exactly .minimal isText (by decide) nests b).1 read⟩

end BlockWire.Body
