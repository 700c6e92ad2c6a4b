/- # What reading accepts

Reading a JSON value at a type gives exactly what the value denotes there, for every
type and every JSON value (`fromJson_eq_ok`), and therefore a value of that type. The
checks on the way (the number of digits before the digits' value, the octets before
their bits, the keys before the fields) refuse nothing that has the shape of the
type, in whatever order they are made.

One lemma a kind of type, then one induction over types. -/
import BlockWire.Proofs.Wire.Decimal
import BlockWire.Proofs.Wire.Denotation

namespace BlockWire.Wire

set_option autoImplicit false

theorem present_eq_ok {α : Type} {read : Json → Except Refusal α} {j : Json} {a : α} :
    present read j = .ok a ↔ j ≠ .null ∧ read j = .ok a := by
  cases j <;> simp [present]

/-! ## Strings of digits -/

theorem fromJson_uint {bits : Nat} {j : Json} {v : Value} :
    fromJson (.uint bits) j = .ok v ↔ Denotes (.uint bits) j v := by
  simp only [fromJson, present_eq_ok, map_eq_ok, uintFromJson_eq_ok]
  constructor
  · rintro ⟨-, n, ⟨digits, rfl, nonempty, decimal, inRange, rfl⟩, rfl⟩
    exact .uint nonempty decimal inRange
  · rintro ⟨nonempty, decimal, inRange⟩
    exact ⟨by simp, _, ⟨_, rfl, nonempty, decimal, inRange, rfl⟩, rfl⟩

theorem fromJson_boolean {j : Json} {v : Value} :
    fromJson .boolean j = .ok v ↔ Denotes .boolean j v := by
  simp only [fromJson, present_eq_ok, map_eq_ok]
  constructor
  · rintro ⟨-, b, read, rfl⟩
    cases j <;> cases read
    exact .boolean b
  · intro denoted
    cases denoted with
    | boolean b => exact ⟨by simp, b, rfl, rfl⟩

/-- The octets of a string with an exact number of digits. -/
theorem exactBytes_iff {length : Nat} {j : Json} {octets : Octets} :
    exactBytes length j = .ok octets ↔
      ∃ digits, j = .str (hexMark ++ digits) ∧ Hex.Spells digits octets ∧
        digits.length = 2 * length := by
  rw [exactBytes_eq_ok, fromHex_eq_ok]
  constructor
  · rintro ⟨⟨digits, rfl, spelled⟩, exact⟩
    exact ⟨digits, rfl, spelled, by rw [spelled.length, exact]⟩
  · rintro ⟨digits, rfl, spelled, exact⟩
    have counted := spelled.length
    exact ⟨⟨digits, rfl, spelled⟩, by omega⟩

theorem bytesWithin_iff {limit : Nat} {j : Json} {octets : Octets} :
    bytesWithin limit j = .ok octets ↔
      ∃ digits, j = .str (hexMark ++ digits) ∧ Hex.Spells digits octets ∧
        digits.length ≤ 2 * limit := by
  rw [bytesWithin_eq_ok, fromHex_eq_ok]
  constructor
  · rintro ⟨⟨digits, rfl, spelled⟩, within⟩
    exact ⟨digits, rfl, spelled, by rw [spelled.length]; omega⟩
  · rintro ⟨digits, rfl, spelled, within⟩
    have counted := spelled.length
    exact ⟨⟨digits, rfl, spelled⟩, by omega⟩

theorem fromJson_byteVector {length : Nat} {j : Json} {v : Value} :
    fromJson (.byteVector length) j = .ok v ↔ Denotes (.byteVector length) j v := by
  simp only [fromJson, present_eq_ok, map_eq_ok, exactBytes_iff]
  constructor
  · rintro ⟨-, octets, ⟨digits, rfl, spelled, exact⟩, rfl⟩
    exact .byteVector spelled exact
  · intro denoted
    cases denoted with
    | byteVector spelled exact => exact ⟨by simp, _, ⟨_, rfl, spelled, exact⟩, rfl⟩

theorem fromJson_byteList {limit : Nat} {j : Json} {v : Value} :
    fromJson (.byteList limit) j = .ok v ↔ Denotes (.byteList limit) j v := by
  simp only [fromJson, present_eq_ok, map_eq_ok, bytesWithin_iff]
  constructor
  · rintro ⟨-, octets, ⟨digits, rfl, spelled, within⟩, rfl⟩
    exact .byteList spelled within
  · intro denoted
    cases denoted with
    | byteList spelled within => exact ⟨by simp, _, ⟨_, rfl, spelled, within⟩, rfl⟩

/-! ## Bitfields -/

theorem bitvectorFromJson_eq_ok {length : Nat} {j : Json} {bits : List Bool} :
    bitvectorFromJson length j = .ok bits ↔
      ∃ octets, exactBytes (Bits.octetCount length) j = .ok octets ∧
        (∀ i, length ≤ i → Bits.bitAt octets i = false) ∧ bits = Bits.below octets length := by
  have room {octets : Octets} (read : exactBytes (Bits.octetCount length) j = .ok octets) :
      octets.length = Bits.octetCount length ∧
        Bits.decode length octets = Bits.below octets length := by
    have exact := (exactBytes_eq_ok.1 read).2
    refine ⟨exact, Bits.decode_eq_below ?_⟩
    rw [exact, Bits.octetCount]
    omega
  simp only [bitvectorFromJson, bind_eq_ok, guard_eq_ok, Bool.not_eq_true, Except.ok.injEq]
  constructor
  · rintro ⟨octets, read, clear, rfl⟩
    obtain ⟨exact, same⟩ := room read
    exact ⟨octets, read, (Bits.holdsBeyond_eq_false exact).1 clear, same⟩
  · rintro ⟨octets, read, clear, rfl⟩
    obtain ⟨exact, same⟩ := room read
    exact ⟨octets, read, (Bits.holdsBeyond_eq_false exact).2 clear, same⟩

theorem fromJson_bitvector {length : Nat} {j : Json} {v : Value} :
    fromJson (.bitvector length) j = .ok v ↔ Denotes (.bitvector length) j v := by
  simp only [fromJson, present_eq_ok, map_eq_ok, bitvectorFromJson_eq_ok, exactBytes_eq_ok,
    fromHex_eq_ok]
  constructor
  · rintro ⟨-, bits, ⟨octets, ⟨⟨digits, rfl, spelled⟩, exact⟩, clear, rfl⟩, rfl⟩
    exact .bitvector spelled exact clear
  · intro denoted
    cases denoted with
    | bitvector spelled exact clear =>
        exact ⟨by simp, _, ⟨_, ⟨⟨_, rfl, spelled⟩, exact⟩, clear, rfl⟩, rfl⟩

theorem bitlistFromJson_eq_ok {limit : Nat} {j : Json} {bits : List Bool} :
    bitlistFromJson limit j = .ok bits ↔
      ∃ octets last k, fromHex j = .ok octets ∧ octets.getLast? = some last ∧ last ≠ 0 ∧
        Bits.HighestAt octets k ∧ k ≤ limit ∧ bits = Bits.below octets k := by
  simp only [bitlistFromJson, bind_eq_ok]
  constructor
  · rintro ⟨octets, read, found⟩
    cases length : Bits.listLength? octets with
    | none => simp [length] at found
    | some k =>
        obtain ⟨last, ends, nonzero, highest⟩ := Bits.listLength?_eq_some.1 length
        simp only [length, guard_eq_ok, Nat.not_lt, Except.ok.injEq] at found
        obtain ⟨within, rfl⟩ := found
        exact ⟨octets, last, k, read, ends, nonzero, highest, within,
          Bits.decode_eq_below highest.le⟩
  · rintro ⟨octets, last, k, read, ends, nonzero, highest, within, rfl⟩
    have length := Bits.listLength?_eq_some.2 ⟨last, ends, nonzero, highest⟩
    refine ⟨octets, read, ?_⟩
    simp only [length, if_neg (Nat.not_lt.2 within), Bits.decode_eq_below highest.le]

theorem fromJson_bitlist {limit : Nat} {j : Json} {v : Value} :
    fromJson (.bitlist limit) j = .ok v ↔ Denotes (.bitlist limit) j v := by
  simp only [fromJson, present_eq_ok, map_eq_ok, bitlistFromJson_eq_ok, fromHex_eq_ok]
  constructor
  · rintro ⟨-, bits, ⟨octets, last, k, ⟨digits, rfl, spelled⟩, ends, nonzero, delimiter, within,
      rfl⟩, rfl⟩
    exact .bitlist spelled ends nonzero delimiter within
  · intro denoted
    cases denoted with
    | bitlist spelled ends nonzero delimiter within =>
        exact ⟨by simp, _, ⟨_, _, _, ⟨_, rfl, spelled⟩, ends, nonzero, delimiter, within, rfl⟩, rfl⟩

/-! ## Sequences -/

theorem entriesFrom_eq_ok {α : Type} {read : Json → Except Refusal α} {i : Nat}
    {items : List Json} {values : List α} :
    entriesFrom read i items = .ok values ↔
      List.Forall₂ (fun j v => read j = .ok v) items values := by
  induction items generalizing i values with
  | nil =>
      rw [List.forall₂_nil_left_iff]
      simp [entriesFrom, eq_comm]
  | cons j rest ih =>
      simp only [entriesFrom, bind_eq_ok, mapError_eq_ok, ih, List.forall₂_cons_left_iff,
        Except.ok.injEq]
      constructor
      · rintro ⟨v, head, vs, tail, rfl⟩
        exact ⟨v, vs, head, tail, rfl⟩
      · rintro ⟨v, vs, head, tail, rfl⟩
        exact ⟨v, head, vs, tail, rfl⟩

theorem entries_eq_ok {α : Type} {read : Json → Except Refusal α} {items : List Json}
    {values : List α} :
    entries read items = .ok values ↔
      List.Forall₂ (fun j v => read j = .ok v) items values :=
  entriesFrom_eq_ok

theorem arrayFromJson_eq_ok {j : Json} {items : List Json} :
    arrayFromJson j = .ok items ↔ j = .arr items := by
  cases j <;> simp [arrayFromJson]

theorem exactEntries_eq_ok {α : Type} {length : Nat} {read : Json → Except Refusal α} {j : Json}
    {values : List α} :
    exactEntries length read j = .ok values ↔
      ∃ items, j = .arr items ∧ items.length = length ∧
        List.Forall₂ (fun j v => read j = .ok v) items values := by
  simp only [exactEntries, bind_eq_ok, arrayFromJson_eq_ok, guard_eq_ok, Decidable.not_not,
    entries_eq_ok]

theorem entriesWithin_eq_ok {α : Type} {limit : Nat} {read : Json → Except Refusal α} {j : Json}
    {values : List α} :
    entriesWithin limit read j = .ok values ↔
      ∃ items, j = .arr items ∧ items.length ≤ limit ∧
        List.Forall₂ (fun j v => read j = .ok v) items values := by
  simp only [entriesWithin, bind_eq_ok, arrayFromJson_eq_ok, guard_eq_ok, Nat.not_lt,
    entries_eq_ok]

/-! ## Fields -/

theorem declaredMembers_eq_ok {declared : List Text} {j : Json} {members : Keyed Json} :
    declaredMembers declared j = .ok members ↔
      j = .obj members ∧ ∀ key ∈ Keyed.keys members, key ∈ declared := by
  cases j with
  | obj found =>
      cases unknown : Keyed.firstUnknown? declared found with
      | some key =>
          simp only [declaredMembers, objectFromJson, bind, Except.bind, unknown, reduceCtorEq,
            Json.obj.injEq, false_iff, not_and]
          rintro rfl known
          simp [Keyed.firstUnknown?_eq_none.2 known] at unknown
      | none =>
          simp only [declaredMembers, objectFromJson, bind, Except.bind, unknown,
            Except.ok.injEq, Json.obj.injEq]
          constructor
          · rintro rfl
            exact ⟨rfl, Keyed.firstUnknown?_eq_none.1 unknown⟩
          · exact And.left
  | _ => simp [declaredMembers, objectFromJson, bind, Except.bind]

theorem fieldsFromJson_cons {name : Text} {type : Ty} {fields : List (Text × Ty)}
    {members : Keyed Json} {values : List (Text × Value)} :
    fieldsFromJson ((name, type) :: fields) members = .ok values ↔
      ∃ j v vs, Keyed.get? members name = some j ∧ fromJson type j = .ok v ∧
        fieldsFromJson fields members = .ok vs ∧ values = (name, v) :: vs := by
  rw [fieldsFromJson]
  cases Keyed.get? members name with
  | none => simp
  | some j =>
      simp only [bind_eq_ok, mapError_eq_ok, Option.some.injEq, Except.ok.injEq]
      constructor
      · rintro ⟨v, head, vs, tail, rfl⟩
        exact ⟨j, v, vs, rfl, head, tail, rfl⟩
      · rintro ⟨_, v, vs, rfl, head, tail, rfl⟩
        exact ⟨v, head, vs, tail, rfl⟩

theorem fieldsFromJson_iff {fields : List (Text × Ty)} {members : Keyed Json}
    {values : List (Text × Value)}
    (agree : ∀ field ∈ fields, ∀ j v, fromJson field.2 j = .ok v ↔ Denotes field.2 j v) :
    fieldsFromJson fields members = .ok values ↔ DenotesFields fields members values := by
  induction fields generalizing values with
  | nil =>
      simp only [fieldsFromJson, Except.ok.injEq]
      constructor
      · rintro rfl
        exact .nil members
      · rintro ⟨⟩
        rfl
  | cons field rest ih =>
      obtain ⟨name, type⟩ := field
      obtain ⟨here, later⟩ := List.forall_mem_cons.1 agree
      rw [fieldsFromJson_cons]
      constructor
      · rintro ⟨j, v, vs, found, head, tail, rfl⟩
        exact .cons found ((here j v).1 head) ((ih later).1 tail)
      · intro each
        cases each with
        | cons found head tail =>
            exact ⟨_, _, _, found, (here _ _).2 head, (ih later).2 tail, rfl⟩

/-! ## Types of other types -/

theorem fromJson_vector {element : Ty} {length : Nat}
    (agree : ∀ j v, fromJson element j = .ok v ↔ Denotes element j v) {j : Json} {v : Value} :
    fromJson (.vector element length) j = .ok v ↔ Denotes (.vector element length) j v := by
  by_cases bytes : element.isByte = true
  · simp only [fromJson, present_eq_ok, if_pos bytes, map_eq_ok, exactBytes_iff]
    constructor
    · rintro ⟨-, octets, ⟨digits, rfl, spelled, exact⟩, rfl⟩
      exact .byteSequenceVector bytes spelled exact
    · intro denoted
      cases denoted with
      | byteSequenceVector _ spelled exact => exact ⟨by simp, _, ⟨_, rfl, spelled, exact⟩, rfl⟩
      | vector notBytes => simp [bytes] at notBytes
  · simp only [fromJson, present_eq_ok, if_neg bytes, map_eq_ok, exactEntries_eq_ok, agree]
    constructor
    · rintro ⟨-, values, ⟨items, rfl, exact, each⟩, rfl⟩
      exact .vector (Bool.not_eq_true _ ▸ bytes) exact (denotesEach_iff.2 each)
    · intro denoted
      cases denoted with
      | byteSequenceVector isBytes => exact absurd isBytes bytes
      | vector _ exact each =>
          exact ⟨by simp, _, ⟨_, rfl, exact, denotesEach_iff.1 each⟩, rfl⟩

theorem fromJson_list {element : Ty} {limit : Nat}
    (agree : ∀ j v, fromJson element j = .ok v ↔ Denotes element j v) {j : Json} {v : Value} :
    fromJson (.list element limit) j = .ok v ↔ Denotes (.list element limit) j v := by
  by_cases bytes : element.isByte = true
  · simp only [fromJson, present_eq_ok, if_pos bytes, map_eq_ok, bytesWithin_iff]
    constructor
    · rintro ⟨-, octets, ⟨digits, rfl, spelled, within⟩, rfl⟩
      exact .byteSequenceList bytes spelled within
    · intro denoted
      cases denoted with
      | byteSequenceList _ spelled within => exact ⟨by simp, _, ⟨_, rfl, spelled, within⟩, rfl⟩
      | list notBytes => simp [bytes] at notBytes
  · simp only [fromJson, present_eq_ok, if_neg bytes, map_eq_ok, entriesWithin_eq_ok, agree]
    constructor
    · rintro ⟨-, values, ⟨items, rfl, within, each⟩, rfl⟩
      exact .list (Bool.not_eq_true _ ▸ bytes) within (denotesEach_iff.2 each)
    · intro denoted
      cases denoted with
      | byteSequenceList isBytes => exact absurd isBytes bytes
      | list _ within each =>
          exact ⟨by simp, _, ⟨_, rfl, within, denotesEach_iff.1 each⟩, rfl⟩

theorem fromJson_container {name : Text} {fields : List (Text × Ty)}
    (agree : ∀ field ∈ fields, ∀ j v, fromJson field.2 j = .ok v ↔ Denotes field.2 j v)
    {j : Json} {v : Value} :
    fromJson (.container name fields) j = .ok v ↔ Denotes (.container name fields) j v := by
  simp only [fromJson, present_eq_ok, bind_eq_ok, declaredMembers_eq_ok, map_eq_ok,
    fieldsFromJson_iff agree]
  constructor
  · rintro ⟨-, members, ⟨rfl, known⟩, values, each, rfl⟩
    exact .container (fun key => ⟨known key, each.mem_keys⟩) each
  · intro denoted
    cases denoted with
    | container keys each =>
        exact ⟨by simp, _, ⟨rfl, fun key => (keys key).1⟩, _, each, rfl⟩

/-! ## The whole type -/

/-- Reading gives exactly what a JSON value denotes. -/
theorem fromJson_eq_ok (type : Ty) (j : Json) (v : Value) :
    fromJson type j = .ok v ↔ Denotes type j v := by
  induction type using Ty.induction generalizing j v with
  | uint bits => exact fromJson_uint
  | boolean => exact fromJson_boolean
  | byteVector length => exact fromJson_byteVector
  | byteList limit => exact fromJson_byteList
  | bitvector length => exact fromJson_bitvector
  | bitlist limit => exact fromJson_bitlist
  | vector element length ih => exact fromJson_vector ih
  | list element limit ih => exact fromJson_list ih
  | container name fields ih => exact fromJson_container ih
  | shapeless name =>
      simp only [fromJson, present_eq_ok, reduceCtorEq, and_false, false_iff]
      rintro ⟨⟩

/-- Reading succeeds exactly on the JSON values that have the shape of the type. It
gives the one value that is denoted, and that value belongs to the type. -/
theorem fromJson_accepts_exactly (type : Ty) (j : Json) :
    ((∃ v, fromJson type j = .ok v) ↔ Conforms type j) ∧
      (∀ v, fromJson type j = .ok v ↔ Denotes type j v) ∧
      ∀ v, fromJson type j = .ok v → Value.Fits type v := by
  have agree := fromJson_eq_ok type j
  refine ⟨?_, agree, fun v read => ((agree v).1 read).fits⟩
  constructor
  · rintro ⟨v, read⟩
    exact ⟨v, (agree v).1 read⟩
  · rintro ⟨v, denoted⟩
    exact ⟨v, (agree v).2 denoted⟩

end BlockWire.Wire
