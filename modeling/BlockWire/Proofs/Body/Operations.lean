/- # What a list of operations comes to

A list of operations is gone through three times: the entries that are not null are read,
then a null is looked for, and in the end the entries are counted. `ListOutcome` says what a
JSON value comes to in the place of such a list without going through it, one case after the
other: which entry is put down for a failure, and which of several failures counts.

Each case is what the field reads (`read_of_outcome`), and there is a case for every value
(`exists_outcome`). `operations_outcome` says both of a document: once the fields before the
list take their octets, the list alone decides, and only a field behind it can fail
later. -/
import BlockWire.Proofs.Body.Failures
import BlockWire.Proofs.Body.Formatting
import BlockWire.Proofs.Wire.Permissive

namespace BlockWire

set_option autoImplicit false

namespace Body

variable {preset : Preset}

/-! ## One list -/

/-- What a JSON value comes to in the place of a list of operations, which has entries of a
type, and so many at most. -/
inductive ListOutcome (element : Ty) (limit : Nat) (name : Text) :
    Json → Except Failure Value → Prop where
  | null : ListOutcome element limit name .null (.ok (.seq []))
  | noArray {j : Json} (there : j ≠ .null) (other : ∀ items, j ≠ .arr items) :
      ListOutcome element limit name j
        (.error (.field name (some (.mismatch (.invalid (.notArray j.kind)))) none))
  | mismatch {before after : List Json} {j : Json} {m : Mismatch}
      (earlier : ∀ item ∈ before, item ≠ .null → Wire.Reads element item) (there : j ≠ .null)
      (failed : Wire.fromJson element j = .error (.mismatch m)) :
      ListOutcome element limit name (.arr (before ++ j :: after))
        (.error (.field name (some (.mismatch (m.within (.index before.length))))
          (some before.length)))
  | missingEntry {before after : List Json} (first : Json.null ∉ before)
      (each : ∀ item ∈ before ++ after, item ≠ .null → Wire.Reads element item) :
      ListOutcome element limit name (.arr (before ++ .null :: after))
        (.error (.missingEntry name before.length))
  | tooMany {items : List Json} (each : ∀ item ∈ items, Wire.Reads element item)
      (exceeds : limit < items.length) :
      ListOutcome element limit name (.arr items)
        (.error (.field name
          (some (.mismatch (.invalid (.tooManyEntries items.length limit)))) none))
  | entries {items : List Json} {values : List Value}
      (each : List.Forall₂ (fun j v => Wire.fromJson element j = .ok v) items values)
      (within : items.length ≤ limit) :
      ListOutcome element limit name (.arr items) (.ok (.seq values))

theorem takesNull_codec (preset : Preset) (which : Operations) :
    (which.codec preset).takesNull = true := by
  cases which <;> rfl

theorem exists_limit (preset : Preset) (which : Operations) :
    ∃ limit, limit? (type preset) which.name = some limit := by
  cases preset <;> cases which <;> exact ⟨_, rfl⟩

section

variable {which : Operations} {raw : Octets} {j : Json}

theorem readEntries_of_load (name : Text) (codec : Codec)
    (loaded : Json.load (.octets raw) = .ok j) :
    readEntries name codec raw = (codec.listFromJson j).mapError (.blame name) := by
  rw [readEntries, (codec.decode_of_load loaded).2]

theorem read_of_refused (loaded : Json.load (.octets raw) = .ok j) {r : Refusal}
    (refused : (which.codec preset).listFromJson j = .error r) :
    (Field.operations which).read preset raw = .error (.blame which.name r) := by
  rw [Field.read, readOperations, readEntries_of_load _ _ loaded, refused]
  rfl

theorem firstNull?_eq_some (values : List Value) (entries : List (Option Value)) :
    firstNull? (values.map some ++ none :: entries) = some values.length := by
  have front := firstNull?_eq_none.2 ⟨values, rfl⟩
  rw [firstNull?] at front ⊢
  rw [List.findIdx?_append, front]
  simp [List.findIdx?_cons]

theorem read_of_null (loaded : Json.load (.octets raw) = .ok j) {values : List Value}
    {entries : List (Option Value)}
    (listed : (which.codec preset).listFromJson j = .ok (values.map some ++ none :: entries)) :
    (Field.operations which).read preset raw = .error (.missingEntry which.name values.length) := by
  rw [Field.read, readOperations, readEntries_of_load _ _ loaded, listed]
  simp only [Except.mapError, bind, Except.bind, firstNull?_eq_some]

theorem read_of_values (loaded : Json.load (.octets raw) = .ok j) {values : List Value}
    (listed : (which.codec preset).listFromJson j = .ok (values.map some)) :
    (Field.operations which).read preset raw = listValue preset which.name (values.map some) := by
  rw [Field.read, readOperations, readEntries_of_load _ _ loaded, listed]
  simp only [Except.mapError, bind, Except.bind, firstNull?_eq_none.2 ⟨values, rfl⟩, Field.name]

theorem listValue_of_limit_lt {name : Text} {limit : Nat}
    (declared : limit? (type preset) name = some limit) {values : List Value}
    (exceeds : limit < values.length) :
    listValue preset name (values.map some) =
      .error (.field name
        (some (.mismatch (.invalid (.tooManyEntries values.length limit)))) none) := by
  rw [listValue, declared, Option.getD_some, List.length_map, if_pos exceeds]
  rfl

variable {limit : Nat} (declared : limit? (type preset) which.name = some limit)

include declared

theorem listValue_of_within {values : List Value} (within : values.length ≤ limit) :
    listValue preset which.name (values.map some) = .ok (.seq values) := by
  rw [listValue_eq_ok, declared]
  exact ⟨within, rfl⟩

/-- Each case is what the field reads. -/
theorem read_of_outcome (loaded : Json.load (.octets raw) = .ok j)
    {outcome : Except Failure Value}
    (comes : ListOutcome (which.codec preset).type limit which.name j outcome) :
    (Field.operations which).read preset raw = outcome := by
  have lenient := takesNull_codec preset which
  cases comes with
  | null =>
      have listed : (which.codec preset).listFromJson .null = .ok (([] : List Value).map some) :=
        rfl
      rw [read_of_values loaded listed]
      exact listValue_of_within declared (Nat.zero_le limit)
  | noArray there other =>
      have refused : (which.codec preset).listFromJson j =
          .error (.invalid (.notArray j.kind)) := by
        cases j with
        | null => exact absurd rfl there
        | arr items => exact absurd rfl (other items)
        | _ => rfl
      rw [read_of_refused loaded refused]
      rfl
  | @mismatch before after bad m earlier there failed =>
      have refused : (which.codec preset).listFromJson (.arr (before ++ bad :: after)) =
          .error (.mismatch (m.within (.index before.length))) := by
        rw [Codec.listFromJson_eq_error lenient]
        exact ⟨before, bad, after, _, rfl, earlier, there, failed, rfl⟩
      rw [read_of_refused loaded refused]
      rfl
  | missingEntry first each =>
      obtain ⟨values, entries, count, listed⟩ :=
        Codec.exists_listFromJson_null lenient first each
      rw [read_of_null loaded listed, count]
  | tooMany each exceeds =>
      obtain ⟨values, read⟩ := Wire.exists_entries_iff.2 each
      rw [read.length_eq] at exceeds ⊢
      rw [read_of_values loaded (Codec.listFromJson_of_values read)]
      exact listValue_of_limit_lt declared exceeds
  | entries each within =>
      rw [each.length_eq] at within
      rw [read_of_values loaded (Codec.listFromJson_of_values each)]
      exact listValue_of_within declared within

end

/-- There is a case for every value. -/
theorem exists_outcome (preset : Preset) (which : Operations) (limit : Nat) (j : Json) :
    ∃ outcome, ListOutcome (which.codec preset).type limit which.name j outcome := by
  have lenient := takesNull_codec preset which
  have supported := (field_isSupported preset (.operations which)).2
  rw [Field.type, Ty.isSupported] at supported
  cases j with
  | null => exact ⟨_, .null⟩
  | arr items =>
      cases listed : (which.codec preset).listFromJson (.arr items) with
      | error r =>
          obtain ⟨before, j, after, cause, rfl, earlier, there, failed, -⟩ :=
            (Codec.listFromJson_eq_error lenient).1 listed
          obtain ⟨m, rfl⟩ := Wire.fromJson_shaped supported j _ failed
          exact ⟨_, .mismatch earlier there failed⟩
      | ok entries =>
          have each := Codec.reads_of_listFromJson lenient listed
          by_cases null : Json.null ∈ items
          · obtain ⟨before, after, rfl, first⟩ := List.eq_append_cons_of_mem null
            have others : ∀ item ∈ before ++ after, item ≠ .null →
                Wire.Reads (which.codec preset).type item := by
              intro item mem
              apply each item
              rw [List.mem_append] at mem ⊢
              exact mem.imp_right (List.mem_cons_of_mem _)
            exact ⟨_, .missingEntry first others⟩
          · have reads : ∀ item ∈ items, Wire.Reads (which.codec preset).type item := by
              intro item mem
              apply each item mem
              rintro rfl
              exact null mem
            obtain ⟨values, read⟩ := Wire.exists_entries_iff.2 reads
            rcases Nat.lt_or_ge limit items.length with exceeds | within
            · exact ⟨_, .tooMany reads exceeds⟩
            · exact ⟨_, .entries read within⟩
  | bool b => exact ⟨_, .noArray (by simp) (by simp)⟩
  | int n => exact ⟨_, .noArray (by simp) (by simp)⟩
  | float x => exact ⟨_, .noArray (by simp) (by simp)⟩
  | str t => exact ⟨_, .noArray (by simp) (by simp)⟩
  | obj members => exact ⟨_, .noArray (by simp) (by simp)⟩

/-! ## The list in a document -/

variable {raws : Keyed Octets}

/-- The value that a document has in the place of a field, null where it has none. -/
def InPlace (raws : Keyed Octets) (name : Text) (j : Json) : Prop :=
  match Keyed.get? raws name with
  | none => j = .null
  | some raw => Json.load (.octets raw) = .ok j

theorem inPlace_iff {name : Text} {j : Json} :
    InPlace raws name j ↔ Json.load (.octets (rawOf raws name)) = .ok j := by
  unfold InPlace rawOf
  split
  next absent => rw [absent, Option.getD_none, load_nullOctets, Except.ok.injEq, eq_comm]
  next raw found => rw [found, Option.getD_some]

/-- A document that is split has one value in the place of each field. -/
theorem existsUnique_inPlace {d : Document} (split : RawFields.split d = .ok raws)
    (name : Text) : ∃! j, InPlace raws name j := by
  simp only [inPlace_iff]
  obtain ⟨t, -, parted⟩ := RawFields.split_eq_ok.1 split
  obtain ⟨members, related⟩ := RawFields.exists_members_of_splitText parted
  have loaded : ∃ j, Json.load (.octets (rawOf raws name)) = .ok j := by
    rw [rawOf]
    cases found : Keyed.get? raws name with
    | none => exact ⟨.null, load_nullOctets⟩
    | some raw =>
        obtain ⟨j, -, holds⟩ := related.get?_left found
        exact ⟨j, holds.load⟩
  obtain ⟨j, here⟩ := loaded
  refine ⟨j, here, ?_⟩
  intro other there
  rw [here] at there
  exact (Except.ok.inj there).symm

/-- If a field takes its octets and so do those before it, only a field behind it fails. -/
theorem blames_behind {d : Document}
    (split : RawFields.splitDeclared (fieldNames preset) d = .ok raws) {before after : List Field}
    {field : Field} (parted : order = before ++ field :: after)
    (earlier : ∀ g ∈ before, Accepts preset raws g) (here : Accepts preset raws field)
    {failure : Failure} (failed : (decode preset d).outcome = .error failure) :
    ∃ g ∈ after, Blames g.name failure := by
  rcases accepts_or_first preset raws order with
    all | ⟨before', g, after', failure', parted', earlier', unread⟩
  · choose val reads using fun g => all g (mem_order g)
    rw [decode_of_reads split reads] at failed
    cases failed
  · rw [decode_of_first split parted' earlier' unread] at failed
    obtain rfl : failure' = failure := Except.error.inj failed
    refine ⟨g, ?_, g.read_blames unread⟩
    have refuses : ¬ Accepts preset raws g := by
      rintro ⟨v, read⟩
      rw [unread] at read
      cases read
    have mem := mem_order g
    rw [parted, List.mem_append, List.mem_cons] at mem
    rcases mem with front | rfl | behind
    · exact absurd (earlier g front) refuses
    · exact absurd here refuses
    · exact behind

/-- What a body holds under a field that takes its octets. -/
theorem get?_of_decode {d : Document}
    (split : RawFields.splitDeclared (fieldNames preset) d = .ok raws) {field : Field} {v b : Value}
    (read : field.read preset (rawOf raws field.name) = .ok v)
    (decoded : (decode preset d).outcome = .ok b) :
    ∃ fields, b = .record fields ∧ Keyed.get? fields field.name = some v := by
  obtain ⟨raws', split', val, reads, rfl⟩ := decode_outcome_eq_ok.1 decoded
  obtain rfl : raws' = raws := Except.ok.inj (split'.symm.trans split)
  refine ⟨_, rfl, ?_⟩
  rw [get?_map nodup_names val (mem_order field), ← Except.ok.inj ((reads field).symm.trans read)]

/-- In a document whose fields before a list of operations take their octets, one value stands
in the place of the list, and exactly one case of `ListOutcome` applies to it. If that is a
failure, reading fails with it. If it is a list, a body that is read has it under the name of
the field, and only a field behind it can fail. -/
theorem operations_outcome (preset : Preset) {d : Document} {raws : Keyed Octets}
    (split : RawFields.splitDeclared (fieldNames preset) d = .ok raws) (which : Operations)
    {before after : List Field}
    (parted : fieldNames preset = (before ++ .operations which :: after).map Field.name)
    (earlier : ∀ g ∈ before, Accepts preset raws g) :
    ∃ limit, limit? (type preset) which.name = some limit ∧ (∃! j, InPlace raws which.name j) ∧
      ∀ j, InPlace raws which.name j →
        (∃! outcome, ListOutcome (which.codec preset).type limit which.name j outcome) ∧
        (∀ failure, ListOutcome (which.codec preset).type limit which.name j (.error failure) →
          decode preset d = ⟨failure.record?.toList, .error failure⟩) ∧
        ∀ value, ListOutcome (which.codec preset).type limit which.name j (.ok value) →
          (∀ b, (decode preset d).outcome = .ok b →
            ∃ fields, b = .record fields ∧ Keyed.get? fields which.name = some value) ∧
          ∀ failure, (decode preset d).outcome = .error failure →
            ∃ g ∈ after, Blames g.name failure := by
  have inOrder : order = before ++ .operations which :: after := by
    rw [names_eq] at parted
    exact List.map_injective_iff.2 name_injective parted
  obtain ⟨limit, declared⟩ := exists_limit preset which
  have one := existsUnique_inPlace (RawFields.splitDeclared_eq_ok.1 split).1 which.name
  refine ⟨limit, declared, one, ?_⟩
  intro j placed
  have reads {outcome : Except Failure Value}
      (comes : ListOutcome (which.codec preset).type limit which.name j outcome) :
      (Field.operations which).read preset (rawOf raws which.name) = outcome :=
    read_of_outcome declared (inPlace_iff.1 placed) comes
  refine ⟨?_, ?_, ?_⟩
  · obtain ⟨outcome, comes⟩ := exists_outcome preset which limit j
    refine ⟨outcome, comes, ?_⟩
    intro other there
    rw [← reads there, reads comes]
  · intro failure comes
    exact decode_of_first split inOrder earlier (reads comes)
  · intro value comes
    constructor
    · intro b decoded
      exact get?_of_decode split (reads comes) decoded
    · intro failure failed
      exact blames_behind split inOrder earlier ⟨value, reads comes⟩ failed

/-- A body up to its first list of operations, with a null in that and behind it an entry
that is no object. -/
def slashedFields : List (Text × Text) :=
  [("randao_reveal", zeros 96),
    ("eth1_data", laidOut false
      [("deposit_root", zeros 32), ("deposit_count", "\"0\""), ("block_hash", zeros 32)]),
    ("graffiti", zeros 32), ("proposer_slashings", "[null,\"\"]")]

def slashed : Document := .octets (Utf8.encode (laidOut false slashedFields))

def slashedRaws : Keyed Octets := slashedFields.map fun field => (field.1, Utf8.encode field.2)

/-- The null comes first, and yet the failure is put down to the entry behind it. -/
theorem operations_outcome_slashed :
    RawFields.splitDeclared (fieldNames .minimal) slashed = .ok slashedRaws ∧
      fieldNames .minimal =
        (order.take 3 ++ .operations .proposerSlashings :: order.drop 4).map Field.name ∧
      (∀ g ∈ order.take 3, Accepts .minimal slashedRaws g) ∧
      (decode .minimal slashed).outcome = .error (.field "proposer_slashings"
        (some (.mismatch ⟨false, .notObject .str, [.index 1]⟩)) (some 1)) := by
  have split : RawFields.splitDeclared (fieldNames .minimal) slashed = .ok slashedRaws := by
    decide +kernel
  have earlier : ∀ g ∈ order.take 3, Accepts .minimal slashedRaws g := by
    have each : (order.take 3).all
        (fun g => (g.read .minimal (rawOf slashedRaws g.name)).isOk) = true := by decide +kernel
    intro g mem
    exact exists_of_isOk (List.all_eq_true.1 each g mem)
  have written : rawOf slashedRaws "proposer_slashings" =
      (Json.arr [.null, .str []]).encode := by decide +kernel
  have placed : InPlace slashedRaws "proposer_slashings" (.arr [.null, .str []]) := by
    rw [inPlace_iff, written]
    apply Json.load_encode
    apply Json.Readable.arr
    rw [List.forall_mem_cons, List.forall_mem_singleton]
    exact ⟨.null _, .str _ (Json.unpaired_of_plain (by simp))⟩
  have parted : fieldNames .minimal =
      (order.take 3 ++ .operations .proposerSlashings :: order.drop 4).map Field.name := rfl
  obtain ⟨limit, -, -, settled⟩ :=
    operations_outcome .minimal split .proposerSlashings parted earlier
  obtain ⟨-, fails, -⟩ := settled _ placed
  have nulls : ∀ item ∈ [Json.null], item ≠ .null → Wire.Reads Schema.proposerSlashing item := by
    simp
  have noObject : Wire.fromJson Schema.proposerSlashing (.str []) =
      .error (.mismatch (.invalid (.notObject .str))) := rfl
  have stopped := fails _ (.mismatch nulls (by simp) noObject)
  exact ⟨split, parted, earlier, congrArg Report.outcome stopped⟩

end Body

end BlockWire
