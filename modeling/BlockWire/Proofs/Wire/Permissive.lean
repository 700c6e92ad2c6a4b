/- # Permissive lists against strict ones

A codec reads a list entry by entry and leaves to others how many there are and whether one
is absent; the list type reads its entries strictly and counts them first. Without a null,
and with no more entries than the type has room for, the two are one reading:
`entries_of_map` puts both down to the reading of the entries, so they give the same values
and fail with the same mismatch (`permissive_agrees_with_strict`).

A null entry is nothing, and an array with such entries is read if and only if all its other
entries are. An entry that is not read is refused where it stands, before or behind a null
(`listFromJson_eq_error`).

None of this holds of octets: a list of these has the shape of a hex string, and a codec
that reads them one by one takes an array. -/
import BlockWire.Proofs.Wire.Location
import BlockWire.Proofs.Wire.RoundTrip
import Mathlib.Data.Option.Basic

namespace BlockWire

set_option autoImplicit false

/-! ## Entries -/

/-- Items are read together if and only if each of them is read. -/
theorem Wire.exists_entries_iff {α : Type} {read : Json → Except Refusal α} {items : List Json} :
    (∃ entries, List.Forall₂ (fun j a => read j = .ok a) items entries) ↔
      ∀ item ∈ items, ∃ a, read item = .ok a := by
  constructor
  · rintro ⟨entries, together⟩
    induction together with
    | nil => simp
    | cons here _ ih => exact List.forall_mem_cons.2 ⟨⟨_, here⟩, ih⟩
  · intro each
    cases together : Wire.entries read items with
    | ok entries => exact ⟨entries, entries_eq_ok.1 together⟩
    | error r =>
        obtain ⟨before, j, after, cause, rfl, -, failed, -⟩ := entries_eq_error.1 together
        obtain ⟨a, here⟩ := each j (by simp)
        rw [here] at failed
        simp at failed

/-- A reading that gives another form of what the first gives, item by item, does so for all
items, and fails where the first fails. -/
theorem Wire.entries_of_map {α β : Type} {read : Json → Except Refusal α}
    {read' : Json → Except Refusal β} {f : α → β} {items : List Json}
    (same : ∀ item ∈ items, read' item = f <$> read item) :
    entries read' items = List.map f <$> entries read items := by
  have counted : ∀ i, entriesFrom read' i items = List.map f <$> entriesFrom read i items := by
    induction items with
    | nil => exact fun _ => rfl
    | cons item rest ih =>
        intro i
        obtain ⟨here, later⟩ := List.forall_mem_cons.1 same
        rw [entriesFrom, entriesFrom, here, ih later]
        cases read item with
        | error r => rfl
        | ok a => cases entriesFrom read (i + 1) rest <;> rfl
  exact counted 0

namespace Codec

variable {codec : Codec}

theorem fromJson_eq_none (lenient : codec.takesNull = true) {j : Json} :
    codec.fromJson j = .ok none ↔ j = .null := by
  cases j <;> simp [fromJson, lenient, isNull, map_eq_ok]

theorem fromJson_eq_error (lenient : codec.takesNull = true) {j : Json} {r : Refusal} :
    codec.fromJson j = .error r ↔ j ≠ .null ∧ Wire.fromJson codec.type j = .error r := by
  cases j <;> simp [fromJson, lenient, isNull, map_eq_error]

theorem exists_entry_iff (lenient : codec.takesNull = true) {j : Json} :
    (∃ entry, codec.fromJson j = .ok entry) ↔ (j ≠ .null → Wire.Reads codec.type j) := by
  constructor
  · rintro ⟨entry, read⟩ there
    cases entry with
    | none => exact absurd ((fromJson_eq_none lenient).1 read) there
    | some v => exact ⟨v, fromJson_eq_some.1 read⟩
  · intro reads
    by_cases null : j = .null
    · exact ⟨none, (fromJson_eq_none lenient).2 null⟩
    · obtain ⟨v, read⟩ := reads null
      exact ⟨some v, fromJson_eq_some.2 read⟩

theorem listFromJson_arr (codec : Codec) (items : List Json) :
    codec.listFromJson (.arr items) = Wire.entries codec.fromJson items := rfl

/-- Entries without a null are as many values. -/
theorem listFromJson_of_values {items : List Json} {values : List Value}
    (each : List.Forall₂ (fun j v => Wire.fromJson codec.type j = .ok v) items values) :
    codec.listFromJson (.arr items) = .ok (values.map some) := by
  rw [listFromJson_arr, entries_eq_some]
  exact each

/-- Entries are read as values up to the first null, and as nothing there. -/
theorem exists_listFromJson_null (lenient : codec.takesNull = true) {before after : List Json}
    (first : Json.null ∉ before)
    (each : ∀ item ∈ before ++ after, item ≠ .null → Wire.Reads codec.type item) :
    ∃ values entries, List.length values = before.length ∧
      codec.listFromJson (.arr (before ++ .null :: after)) =
        .ok (values.map some ++ none :: entries) := by
  have there : ∀ item ∈ before, Wire.Reads codec.type item := by
    intro item mem
    apply each item (List.mem_append_left after mem)
    rintro rfl
    exact first mem
  have behind : ∀ item ∈ after, ∃ entry, codec.fromJson item = .ok entry := by
    intro item mem
    exact (exists_entry_iff lenient).2 (each item (List.mem_append_right before mem))
  obtain ⟨values, front⟩ := Wire.exists_entries_iff.2 there
  obtain ⟨entries, back⟩ := Wire.exists_entries_iff.2 behind
  refine ⟨values, entries, front.length_eq.symm, ?_⟩
  rw [listFromJson_arr, Wire.entries_eq_ok]
  apply List.rel_append
  · exact Wire.entries_eq_ok.1 (entries_eq_some.2 front)
  · exact .cons ((fromJson_eq_none lenient).2 rfl) back

theorem listFromJson_eq_error (lenient : codec.takesNull = true) {items : List Json}
    {r : Refusal} :
    codec.listFromJson (.arr items) = .error r ↔
      ∃ before j after cause, items = before ++ j :: after ∧
        (∀ item ∈ before, item ≠ .null → Wire.Reads codec.type item) ∧ j ≠ .null ∧
        Wire.fromJson codec.type j = .error cause ∧ r = cause.within (.index before.length) := by
  rw [listFromJson_arr, Wire.entries_eq_error]
  simp only [fromJson_eq_error lenient, exists_entry_iff lenient, and_assoc]

theorem reads_of_listFromJson (lenient : codec.takesNull = true) {items : List Json}
    {entries : List (Option Value)} (listed : codec.listFromJson (.arr items) = .ok entries) :
    ∀ item ∈ items, item ≠ .null → Wire.Reads codec.type item := by
  rw [listFromJson_arr, Wire.entries_eq_ok] at listed
  intro item mem
  have each := Wire.exists_entries_iff.1 ⟨entries, listed⟩
  exact (exists_entry_iff lenient).1 (each item mem)

/-! ## Lists without a null -/

theorem fromJson_of_ne_null {j : Json} (there : j ≠ .null) :
    codec.fromJson j = some <$> Wire.fromJson codec.type j := by
  cases j with
  | null => exact absurd rfl there
  | _ => simp [fromJson, isNull]

theorem listFromJson_of_no_null {items : List Json} (noNull : Json.null ∉ items) :
    codec.listFromJson (.arr items) =
      List.map some <$> Wire.entries (Wire.fromJson codec.type) items := by
  rw [listFromJson_arr]
  apply Wire.entries_of_map
  intro item mem
  apply fromJson_of_ne_null
  rintro rfl
  exact noNull mem

/-! ## Lists with nulls -/

/-- What a codec that takes nulls makes of an item. -/
theorem fromJson_eq_ok_iff (lenient : codec.takesNull = true) {j : Json} {entry : Option Value} :
    codec.fromJson j = .ok entry ↔
      (entry = none ↔ j = .null) ∧ ∀ v, entry = some v → Wire.fromJson codec.type j = .ok v := by
  cases entry with
  | none => simp [fromJson_eq_none lenient]
  | some v =>
      rw [fromJson_eq_some]
      constructor
      · intro read
        refine ⟨?_, by simpa using read⟩
        simp only [reduceCtorEq, false_iff]
        rintro rfl
        exact Wire.fromJson_null _ _ read
      · rintro ⟨-, read⟩
        exact read v rfl

theorem exists_listFromJson_iff (lenient : codec.takesNull = true) {items : List Json} :
    (∃ entries, codec.listFromJson (.arr items) = .ok entries) ↔
      ∀ item ∈ items, item ≠ .null → Wire.Reads codec.type item := by
  simp only [listFromJson_arr, Wire.entries_eq_ok, Wire.exists_entries_iff,
    exists_entry_iff lenient]

theorem listFromJson_eq_ok_iff (lenient : codec.takesNull = true) {items : List Json}
    {entries : List (Option Value)} :
    codec.listFromJson (.arr items) = .ok entries ↔
      List.Forall₂ (fun item entry => (entry = none ↔ item = .null) ∧
        ∀ v, entry = some v → Wire.fromJson codec.type item = .ok v) items entries := by
  simp only [listFromJson_arr, Wire.entries_eq_ok, fromJson_eq_ok_iff lenient]

/-! ## Both lists -/

/-- At a supported type that is no octet, an array without a null that is no longer than the
limit is read by the codec as the values that the list type reads, and if not, both fail with
one mismatch. With nulls, an array is read if and only if its other entries are, and then
nothing is read at the nulls and there alone. Values within the limit are written alike. -/
theorem permissive_agrees_with_strict {element : Ty} (supported : element.isSupported = true)
    (notBytes : element.isByte = false) (limit : Nat) :
    (∀ items : List Json, Json.null ∉ items → items.length ≤ limit →
      (∀ values, (plain element).listFromJson (.arr items) = .ok (values.map some) ↔
        Wire.fromJson (.list element limit) (.arr items) = .ok (.seq values)) ∧
      ((∃ values : List Value,
          (plain element).listFromJson (.arr items) = .ok (values.map some)) ∨
        ∃ m, (plain element).listFromJson (.arr items) = .error (.mismatch m) ∧
          Wire.fromJson (.list element limit) (.arr items) = .error (.mismatch m))) ∧
    (∀ items : List Json,
      ((∃ entries, (plain element).listFromJson (.arr items) = .ok entries) ↔
        ∀ item ∈ items, item ≠ .null → Wire.Reads element item) ∧
      ∀ entries, (plain element).listFromJson (.arr items) = .ok entries →
        List.Forall₂ (fun item entry => (entry = none ↔ item = .null) ∧
          ∀ v, entry = some v → Wire.fromJson element item = .ok v) items entries) ∧
    ∀ values : List Value, values.length ≤ limit → (∀ v ∈ values, Value.Fits element v) →
      Value.Fits (.list element limit) (.seq values) ∧
        encodeEntries (values.map some) = .ok (encode (.seq values)) := by
  have lenient : (plain element).takesNull = true := rfl
  refine ⟨?_, ?_, ?_⟩
  · intro items noNull within
    have permissive := (plain element).listFromJson_of_no_null noNull
    have strict := Wire.fromJson_list_arr notBytes within
    cases read : Wire.entries (Wire.fromJson element) items with
    | ok found =>
        have permissive' : (plain element).listFromJson (.arr items) = .ok (found.map some) :=
          permissive.trans (congrArg _ read)
        have strict' : Wire.fromJson (.list element limit) (.arr items) = .ok (.seq found) :=
          strict.trans (congrArg _ read)
        rw [permissive', strict']
        refine ⟨fun values => ?_, .inl ⟨found, rfl⟩⟩
        have distinct := List.map_injective_iff.2 (Option.some_injective Value)
        rw [Except.ok.injEq, Except.ok.injEq, distinct.eq_iff, Value.seq.injEq]
    | error r =>
        have permissive' : (plain element).listFromJson (.arr items) = .error r :=
          permissive.trans (congrArg _ read)
        have strict' : Wire.fromJson (.list element limit) (.arr items) = .error r :=
          strict.trans (congrArg _ read)
        have listSupported : (Ty.list element limit).isSupported = true := supported
        obtain ⟨m, rfl⟩ := Wire.fromJson_shaped listSupported _ r strict'
        rw [permissive', strict']
        exact ⟨fun values => by simp, .inr ⟨m, rfl, rfl⟩⟩
  · intro items
    exact ⟨exists_listFromJson_iff lenient, fun entries => (listFromJson_eq_ok_iff lenient).1⟩
  · intro values within fits
    refine ⟨.list notBytes within (Wire.fitsEach_iff.2 fits), ?_⟩
    rw [encodeEntries_some, encode_seq]

/-- An entry with two fields, the first of which is what is given. -/
def pair (slot : Text) : Json := .obj [("slot", .str slot), ("bits", .str "0x01")]

def pairType : Ty := .container "Pair" [("slot", .uint 64), ("bits", .bitlist 9)]

def pairValue : Value := .record [("slot", .uint 7), ("bits", .bitlist [])]

theorem permissive_agrees_with_strict_pairs :
    pairType.isSupported = true ∧ pairType.isByte = false ∧
      Json.null ∉ [pair "7", pair "ten"] ∧
      (∃ m, (plain pairType).listFromJson (.arr [pair "7", pair "ten"]) = .error (.mismatch m) ∧
        Wire.fromJson (.list pairType 2) (.arr [pair "7", pair "ten"]) = .error (.mismatch m) ∧
        m.path = [.index 1, .field "slot"]) ∧
      ((plain pairType).listFromJson (.arr [.null, pair "7"])).isOk = true ∧
      Value.Fits pairType pairValue ∧
      encodeEntries [some pairValue] = .ok (encode (.seq [pairValue])) := by
  have supported : pairType.isSupported = true := by decide +kernel
  have noNull : Json.null ∉ [pair "7", pair "ten"] := by simp [pair]
  have fits : Value.Fits pairType pairValue := by decide +kernel
  obtain ⟨alike, nulls, written⟩ := permissive_agrees_with_strict supported rfl 2
  have refused : Wire.fromJson (.list pairType 2) (.arr [pair "7", pair "ten"]) =
      .error (.mismatch ⟨false, .notDecimal (.str "ten"), [.index 1, .field "slot"]⟩) := rfl
  have reads : ∀ item ∈ [Json.null, pair "7"], item ≠ .null → Wire.Reads pairType item := by
    intro item mem there
    simp only [List.mem_cons, List.not_mem_nil, or_false] at mem
    rcases mem with rfl | rfl
    · exact absurd rfl there
    · exact ⟨pairValue, rfl⟩
  obtain ⟨entries, listed⟩ := (nulls _).1.2 reads
  refine ⟨supported, rfl, noNull, ?_, by rw [listed]; rfl, fits, ?_⟩
  · obtain ⟨same, found | ⟨m, permissive, strict⟩⟩ := alike _ noNull (Nat.le_refl 2)
    · obtain ⟨values, read⟩ := found
      rw [same, refused] at read
      cases read
    · rw [refused] at strict
      cases strict
      exact ⟨_, permissive, refused, rfl⟩
  · exact (written [_] (by simp) (by simpa using fits)).2

/-- Octets are one hex string for the list type, and an array for the codec. -/
example : (plain (.uint 8)).listFromJson (.arr []) = .ok [] ∧
    Wire.fromJson (.list (.uint 8) 2) (.arr []) = .error (.invalid (.notHex .arr)) := ⟨rfl, rfl⟩

end Codec

end BlockWire
