/- # What a field's octets denote

A field takes exactly the octets whose JSON value has the shape of its type
(`Field.read_eq_ok`): in a list field a null is an empty list first, and graffiti has
to be spelled literally besides. So the permissive list reading with its checks for null
entries and for length, and the fixed octets without null, come to the strict reading
of the type.

The type of a field (`Field.type`) is put together from its codec and its limit. That the
body declares the fields with these types, in this order, is `declared_eq`. -/
import BlockWire.Body.Decode
import BlockWire.Proofs.Body.Graffiti
import BlockWire.Proofs.Wire.Codecs
import Mathlib.Data.List.Nodup

namespace BlockWire.Body

set_option autoImplicit false

/-! ## The declared fields -/

/-- The fields as the type of a body declares them. -/
def order : List Field :=
  [.randaoReveal, .required .eth1Data, .graffiti, .operations .proposerSlashings,
    .operations .attesterSlashings, .operations .attestations, .operations .deposits,
    .operations .voluntaryExits, .required .syncAggregate, .required .executionPayload,
    .operations .blsToExecutionChanges, .commitments, .required .executionRequests]

theorem mem_order (field : Field) : field ∈ order := by
  cases field with
  | required which => cases which <;> simp [order]
  | operations which => cases which <;> simp [order]
  | _ => simp [order]

theorem nodup_names : (order.map Field.name).Nodup := by decide +kernel

/-- A field is known by its name. -/
theorem name_injective : Function.Injective Field.name := by
  intro field field' same
  exact List.inj_on_of_nodup_map nodup_names (mem_order field) (mem_order field') same

/-- What a field's codec reads, as a list where the field is one. -/
def Field.type (preset : Preset) : Field → Ty
  | .randaoReveal => Body.randaoReveal.type
  | .graffiti => Schema.bytes32
  | .required which => (which.codec preset).type
  | .operations which =>
      .list (which.codec preset).type ((limit? (Body.type preset) which.name).getD 0)
  | .commitments =>
      .list commitment.type ((limit? (Body.type preset) Field.commitments.name).getD 0)

/-- Each field is declared with the type that its codec reads. -/
theorem declared_eq (preset : Preset) :
    (type preset).fields = order.map fun field => (field.name, field.type preset) := by
  cases preset <;> rfl

theorem names_eq (preset : Preset) : fieldNames preset = order.map Field.name := by
  rw [fieldNames, declared_eq, List.map_map]
  rfl

theorem type_eq (preset : Preset) :
    type preset = .container "ElectraBeaconBlockBody"
      (order.map fun field => (field.name, field.type preset)) := by
  rw [← declared_eq]
  rfl

theorem type_isSupported (preset : Preset) : (type preset).isSupported = true := by
  cases preset <;> decide +kernel

theorem levels_type_le (preset : Preset) : (type preset).levels ≤ Json.depthLimit := by
  cases preset <;> decide +kernel

theorem mem_types (preset : Preset) (field : Field) :
    (field.name, field.type preset) ∈ order.map fun field => (field.name, field.type preset) :=
  List.mem_map_of_mem (mem_order field)

theorem field_isSupported (preset : Preset) (field : Field) :
    Ty.isPlainName field.name = true ∧ (field.type preset).isSupported = true := by
  have whole := type_isSupported preset
  rw [type_eq] at whole
  exact (Ty.isSupported_container.1 whole).2 _ (mem_types preset field)

theorem levels_field_le (preset : Preset) (field : Field) :
    (field.type preset).levels ≤ Json.depthLimit := by
  have inside := Ty.levels_le_fieldLevels (mem_types preset field)
  have whole := levels_type_le preset
  rw [type_eq, Ty.levels] at whole
  exact Nat.le_trans inside (Nat.le_of_succ_le whole)

/-- Lists of operations hold values that are no octets. -/
theorem notBytes_codec (preset : Preset) (which : Operations) :
    (which.codec preset).type.isByte = false := by
  cases which <;> rfl

variable {preset : Preset}

/-! ## Fields of one value -/

/-- What a list field's null stands for. -/
def nullAsEmpty : Json → Json
  | .null => .arr []
  | j => j

theorem readSingle_eq_ok {name : Text} {codec : Codec} {raw : Octets} {v : Value} :
    readSingle name codec raw = .ok v ↔
      ∃ j, Json.load (.octets raw) = .ok j ∧ Wire.fromJson codec.type j = .ok v := by
  have decoded : codec.decode (.octets raw) = .ok (some v) ↔
      ∃ j, Json.load (.octets raw) = .ok j ∧ Wire.fromJson codec.type j = .ok v := by
    rw [Codec.decode, bind_eq_ok]
    simp only [Codec.loadValue_eq_ok, Codec.fromJson_eq_some]
  rw [← decoded, readSingle]
  split
  next found => simp [found]
  next found => simp [found]
  next found => simp [found]

/-! ## Fields of many values -/

theorem firstNull?_eq_none {entries : List (Option Value)} :
    firstNull? entries = none ↔ ∃ values : List Value, entries = values.map some := by
  rw [firstNull?, List.findIdx?_eq_none_iff]
  constructor
  · intro present
    induction entries with
    | nil => exact ⟨[], rfl⟩
    | cons entry rest ih =>
        obtain ⟨here, later⟩ := List.forall_mem_cons.1 present
        obtain ⟨values, rfl⟩ := ih later
        cases entry with
        | none => simp at here
        | some value => exact ⟨value :: values, rfl⟩
  · rintro ⟨values, rfl⟩
    simp

theorem listFromJson_eq_ok {codec : Codec} {j : Json} {values : List Value} :
    codec.listFromJson j = .ok (values.map some) ↔
      ∃ items, nullAsEmpty j = .arr items ∧
        List.Forall₂ (fun j v => Wire.fromJson codec.type j = .ok v) items values := by
  cases j with
  | null =>
      simp only [Codec.listFromJson, nullAsEmpty, Json.arr.injEq, exists_eq_left',
        List.forall₂_nil_left_iff, Except.ok.injEq]
      rw [eq_comm, List.map_eq_nil_iff]
  | arr items =>
      simp only [Codec.listFromJson, nullAsEmpty, Json.arr.injEq, exists_eq_left', bind_eq_ok,
        Wire.arrayFromJson, Except.ok.injEq, Codec.entries_eq_some]
  | _ => simp [Codec.listFromJson, nullAsEmpty, Wire.arrayFromJson, bind, Except.bind]

theorem fromJson_list_eq_ok {element : Ty} (notBytes : element.isByte = false) {limit : Nat}
    {j : Json} {v : Value} :
    Wire.fromJson (.list element limit) j = .ok v ↔
      ∃ items values, j = .arr items ∧ items.length ≤ limit ∧
        List.Forall₂ (fun j v => Wire.fromJson element j = .ok v) items values ∧
        v = .seq values := by
  rw [Wire.fromJson_eq_ok]
  simp only [Wire.fromJson_eq_ok]
  constructor
  · intro denoted
    cases denoted with
    | byteSequenceList bytes => simp [notBytes] at bytes
    | list _ within each => exact ⟨_, _, rfl, within, Wire.denotesEach_iff.1 each, rfl⟩
  · rintro ⟨items, values, rfl, within, each, rfl⟩
    exact .list notBytes within (Wire.denotesEach_iff.2 each)

/-- Fixed octets are read for no null entry. -/
theorem exists_values_of_decodeList {codec : Codec} (strict : codec.takesNull = false)
    {d : Document} {entries : List (Option Value)} (read : codec.decodeList d = .ok entries) :
    ∃ values : List Value, entries = values.map some := by
  rw [Codec.decodeList, bind_eq_ok] at read
  obtain ⟨j, -, listed⟩ := read
  unfold Codec.listFromJson at listed
  split at listed
  · exact ⟨[], (Except.ok.inj listed).symm⟩
  · obtain ⟨items, -, each⟩ := bind_eq_ok.1 listed
    rw [Wire.entries_eq_ok] at each
    clear listed
    induction each with
    | nil => exact ⟨[], rfl⟩
    | cons head _ ih =>
        obtain ⟨v, rfl⟩ := Codec.exists_value_of_fromJson strict head
        obtain ⟨values, rfl⟩ := ih
        exact ⟨v :: values, rfl⟩

theorem readEntries_eq_ok {name : Text} {codec : Codec} {raw : Octets}
    {entries : List (Option Value)} :
    readEntries name codec raw = .ok entries ↔ codec.decodeList (.octets raw) = .ok entries :=
  mapError_eq_ok

theorem readOperations_eq_ok {which : Operations} {raw : Octets}
    {entries : List (Option Value)} :
    readOperations preset which raw = .ok entries ↔
      ∃ values : List Value, entries = values.map some ∧
        (which.codec preset).decodeList (.octets raw) = .ok (values.map some) := by
  rw [readOperations, bind_eq_ok]
  simp only [readEntries_eq_ok]
  constructor
  · rintro ⟨found, decoded, whole⟩
    split at whole
    · simp at whole
    next present =>
      obtain rfl := Except.ok.inj whole
      obtain ⟨values, rfl⟩ := firstNull?_eq_none.1 present
      exact ⟨values, rfl, decoded⟩
  · rintro ⟨values, rfl, decoded⟩
    refine ⟨values.map some, decoded, ?_⟩
    simp only [firstNull?_eq_none.2 ⟨values, rfl⟩]

theorem listValue_eq_ok {name : Text} {values : List Value} {v : Value} :
    listValue preset name (values.map some) = .ok v ↔
      values.length ≤ (limit? (type preset) name).getD 0 ∧ v = .seq values := by
  have collected : (values.map some).filterMap id = values := by
    rw [List.filterMap_map]
    exact List.filterMap_some
  rw [listValue, guard_eq_ok, collected, Nat.not_lt, List.length_map, Except.ok.injEq]
  exact and_congr_right fun _ => eq_comm

/-- Entries without null and the check of their number come to the strict reading of
the list. -/
theorem listValue_decoded_eq_ok {name : Text} {codec : Codec}
    (notBytes : codec.type.isByte = false) {raw : Octets} {v : Value} :
    (∃ values : List Value, codec.decodeList (.octets raw) = .ok (values.map some) ∧
        listValue preset name (values.map some) = .ok v) ↔
      ∃ j, Json.load (.octets raw) = .ok j ∧
        Wire.fromJson (.list codec.type ((limit? (type preset) name).getD 0)) (nullAsEmpty j) =
          .ok v := by
  have decoded {values : List Value} :
      codec.decodeList (.octets raw) = .ok (values.map some) ↔
        ∃ j items, Json.load (.octets raw) = .ok j ∧ nullAsEmpty j = .arr items ∧
          List.Forall₂ (fun j v => Wire.fromJson codec.type j = .ok v) items values := by
    rw [Codec.decodeList, bind_eq_ok]
    simp only [Codec.loadValue_eq_ok, listFromJson_eq_ok, exists_and_left]
  simp only [fromJson_list_eq_ok notBytes, decoded, listValue_eq_ok]
  constructor
  · rintro ⟨values, ⟨j, items, loaded, array, each⟩, within, rfl⟩
    exact ⟨j, loaded, items, values, array, each.length_eq ▸ within, each, rfl⟩
  · rintro ⟨j, loaded, items, values, array, within, each, rfl⟩
    exact ⟨values, ⟨j, items, loaded, array, each⟩, each.length_eq ▸ within, rfl⟩

/-! ## Every field -/

/-- What a field takes the value in its octets for. -/
def Field.presented (field : Field) (j : Json) : Json :=
  match field with
  | .operations _ => nullAsEmpty j
  | .commitments => nullAsEmpty j
  | _ => j

/-- Quote, mark, 64 hex digits, quote. -/
def IsLiteral (raw : Octets) : Prop :=
  ∃ digits : Text, digits.length = 64 ∧ (∀ c ∈ digits, Hex.isDigit c = true) ∧
    raw = Utf8.encode ("\"0x" ++ digits ++ "\"")

theorem readGraffiti_eq_ok {name : Text} {raw : Octets} {v : Value} :
    readGraffiti name raw = .ok v ↔
      IsLiteral raw ∧ ∃ j, Json.load (.octets raw) = .ok j ∧
        Wire.fromJson Schema.bytes32 j = .ok v := by
  have read : readGraffiti name raw = .ok v ↔
      ∃ octets, Graffiti.decode raw = .ok octets ∧ v = .bytes octets := by
    unfold readGraffiti
    split
    next octets found => simp [found, eq_comm]
    next found => simp [found]
  simp only [read, Graffiti.decode_eq_ok, Wire.fromJson_eq_ok]
  constructor
  · rintro ⟨octets, ⟨digits, count, spells, rfl⟩, rfl⟩
    exact ⟨⟨digits, count, spells.isDigit, rfl⟩, _, Graffiti.load_literal spells.isDigit,
      .byteVector spells count⟩
  · rintro ⟨⟨digits, count, all, rfl⟩, j, loaded, denoted⟩
    obtain rfl := Except.ok.inj ((Graffiti.load_literal all).symm.trans loaded)
    obtain ⟨octets, spells⟩ := Hex.exists_spells_iff.2 ⟨by omega, all⟩
    have same : Wire.Denotes Schema.bytes32 (.str (Wire.hexMark ++ digits)) (.bytes octets) :=
      .byteVector spells count
    rw [← Wire.fromJson_eq_ok] at denoted same
    rw [denoted] at same
    exact ⟨octets, ⟨digits, count, spells, rfl⟩, Except.ok.inj same⟩

/-- A field takes what the strict reading of its type takes. -/
theorem Field.read_eq_ok {field : Field} {raw : Octets} {v : Value} :
    field.read preset raw = .ok v ↔
      (field = .graffiti → IsLiteral raw) ∧
        ∃ j, Json.load (.octets raw) = .ok j ∧
          Wire.fromJson (field.type preset) (field.presented j) = .ok v := by
  cases field with
  | randaoReveal =>
      simp only [Field.read, Field.presented, Field.type, reduceCtorEq, false_implies, true_and,
        readSingle_eq_ok]
  | graffiti =>
      simp only [Field.read, Field.presented, Field.type, true_implies, readGraffiti_eq_ok]
  | required which =>
      simp only [Field.read, Field.presented, Field.type, reduceCtorEq, false_implies, true_and,
        readSingle_eq_ok]
  | operations which =>
      simp only [Field.presented, Field.type, reduceCtorEq, false_implies, true_and]
      rw [← listValue_decoded_eq_ok (notBytes_codec preset which), Field.read, bind_eq_ok]
      simp only [readOperations_eq_ok]
      constructor
      · rintro ⟨_, ⟨values, rfl, decoded⟩, listed⟩
        exact ⟨values, decoded, listed⟩
      · rintro ⟨values, decoded, listed⟩
        exact ⟨_, ⟨values, rfl, decoded⟩, listed⟩
  | commitments =>
      simp only [Field.presented, Field.type, reduceCtorEq, false_implies, true_and]
      rw [← listValue_decoded_eq_ok rfl, Field.read, bind_eq_ok]
      simp only [readEntries_eq_ok]
      constructor
      · rintro ⟨entries, decoded, listed⟩
        -- No check for null entries is made here, and none is needed.
        obtain ⟨values, rfl⟩ := exists_values_of_decodeList rfl decoded
        exact ⟨values, decoded, listed⟩
      · rintro ⟨values, decoded, listed⟩
        exact ⟨_, decoded, listed⟩

/-! ## Failures -/

/-- A failure that is put down to a field, or to a null entry in it. -/
inductive Blames (name : Text) : Failure → Prop where
  | field (cause : Failure) (index : Option Int) : Blames name (.field name (some cause) index)
  | missingEntry (i : Int) : Blames name (.missingEntry name i)

end BlockWire.Body
