/- # Levels of values

`levels` counts the arrays and objects of a value that stand inside one another. Whatever
is scanned is `Formed`: no object has a key twice, and there are no more levels than there
were to read with (`scanValue_formed`, `Formed.levels_le`).

A readable value needs just its own levels (`Readable.tight`). So reading its octets gives
the value back exactly if it has no more levels than the reader, and runs out of levels
otherwise (`load_encode_eq`). -/
import BlockWire.Proofs.Json.Loading

namespace BlockWire.Json

set_option autoImplicit false

mutual

def levels : Json → Nat
  | .arr items => itemLevels items + 1
  | .obj members => memberLevels members + 1
  | _ => 0

def itemLevels : List Json → Nat
  | [] => 0
  | item :: rest => max item.levels (itemLevels rest)

def memberLevels : List (Text × Json) → Nat
  | [] => 0
  | (_, value) :: rest => max value.levels (memberLevels rest)

end

theorem itemLevels_le {items : List Json} {n : Nat} :
    itemLevels items ≤ n ↔ ∀ item ∈ items, item.levels ≤ n := by
  induction items with
  | nil => simp [itemLevels]
  | cons item rest ih => rw [itemLevels, Nat.max_le, ih, List.forall_mem_cons]

theorem memberLevels_le {members : List (Text × Json)} {n : Nat} :
    memberLevels members ≤ n ↔ ∀ member ∈ members, member.2.levels ≤ n := by
  induction members with
  | nil => simp [memberLevels]
  | cons member rest ih =>
      obtain ⟨key, value⟩ := member
      rw [memberLevels, Nat.max_le, ih, List.forall_mem_cons]

/-- No object has a key twice, and there are at most so many levels. -/
inductive Formed : Nat → Json → Prop where
  | null (depth : Nat) : Formed depth .null
  | bool (depth : Nat) (b : Bool) : Formed depth (.bool b)
  | int (depth : Nat) (n : Int) : Formed depth (.int n)
  | float (depth : Nat) (x : Binary64) : Formed depth (.float x)
  | str (depth : Nat) (t : Text) : Formed depth (.str t)
  | arr {depth : Nat} {items : List Json} (each : ∀ item ∈ items, Formed depth item) :
      Formed (depth + 1) (.arr items)
  | obj {depth : Nat} {members : Keyed Json} (distinct : (Keyed.keys members).Nodup)
      (each : ∀ member ∈ members, Formed depth member.2) : Formed (depth + 1) (.obj members)

theorem Formed.levels_le {depth : Nat} {v : Json} (formed : Formed depth v) :
    v.levels ≤ depth := by
  induction formed with
  | arr _ ih => exact Nat.succ_le_succ (itemLevels_le.2 ih)
  | obj _ _ ih => exact Nat.succ_le_succ (memberLevels_le.2 ih)
  | _ => exact Nat.zero_le _

theorem Readable.formed {depth : Nat} {v : Json} (readable : Readable depth v) :
    Formed depth v := by
  induction readable with
  | null depth => exact .null depth
  | bool depth b => exact .bool depth b
  | int depth _ => exact .int depth _
  | str depth _ => exact .str depth _
  | arr _ ih => exact .arr ih
  | obj distinct _ _ ih => exact .obj distinct ih

theorem Readable.tight {depth : Nat} {v : Json} (readable : Readable depth v) :
    Readable v.levels v := by
  induction readable with
  | null => exact .null _
  | bool _ b => exact .bool _ b
  | int _ short => exact .int _ short
  | str _ unpaired => exact .str _ unpaired
  | @arr _ items _ ih =>
      have within := itemLevels_le.1 (Nat.le_refl (itemLevels items))
      exact .arr fun item mem => (ih item mem).mono (within item mem)
  | @obj _ members distinct unpaired _ ih =>
      have within := memberLevels_le.1 (Nat.le_refl (memberLevels members))
      exact .obj distinct unpaired fun member mem => (ih member mem).mono (within member mem)

/-! ## What holds of all that is scanned -/

/-- What holds of words, numbers and strings, and of arrays and objects where it holds of what
is inside, with a level less. -/
structure Inherited (P : Nat → Json → Prop) : Prop where
  atom : ∀ {t left v} (depth : Nat), scanAtom t = .ok (v, left) → P depth v
  str : ∀ depth t, P depth (.str t)
  arr : ∀ {depth items}, (∀ item ∈ items, P depth item) → P (depth + 1) (.arr items)
  obj : ∀ {depth : Nat} {members : Keyed Json}, (Keyed.keys members).Nodup →
    (∀ member ∈ members, P depth member.2) → P (depth + 1) (.obj members)

theorem Parted.forall_mem {ε α : Type} {item : Scan ε α} {close : CodePoint} {P : α → Prop}
    (holds : ∀ t left x, item t = .ok (x, left) → P x) {t rest : Text} {xs : List α}
    (read : Parted item close t xs rest) : ∀ x ∈ xs, P x := by
  induction read with
  | last head _ => exact List.forall_mem_singleton.2 (holds _ _ _ head)
  | more head _ _ ih => exact List.forall_mem_cons.2 ⟨holds _ _ _ head, ih⟩

/-- What holds of each item that is read holds of all that stand between the brackets. -/
theorem items_forall_mem {ε α : Type} {item : Scan ε α} {close : CodePoint} {P : α → Prop}
    (closer : Closer close) (near : Local item) (apart : Apart item close) {unparted : Text → ε}
    (holds : ∀ t left x, item t = .ok (x, left) → P x) {t rest : Text} {xs : List α}
    (read : items item close unparted t = .ok (xs, rest)) : ∀ x ∈ xs, P x := by
  rcases (items_eq_ok closer near apart).1 read with ⟨-, rfl⟩ | parted
  · simp
  · exact parted.forall_mem holds

/-- One value more: what can stand inside has a level less. -/
theorem scanWith_inherited {P : Nat → Json → Prop} (inherited : Inherited P)
    {nested : Option (Scan (Fault Text) Json)} {depth : Nat}
    (near : ∀ value ∈ nested, Local value ∧ Apart value (.ofChar ']'))
    (inside : ∀ value ∈ nested, ∃ below, depth = below + 1 ∧
      ∀ t left v, value t = .ok (v, left) → P below v)
    {t left : Text} {v : Json} (read : scanWith nested t = .ok (v, left)) : P depth v := by
  rcases scanWith_cases read with ⟨_, body, -, -, rfl⟩ |
    ⟨value, here, rest, pairs, rfl, members, rfl⟩ | ⟨value, here, rest, values, rfl, items, rfl⟩ |
    ⟨_, _, -, -, -, -, atom⟩
  · exact inherited.str depth body
  · obtain ⟨nearValue, -⟩ := near value here
    obtain ⟨below, rfl, holds⟩ := inside value here
    have holdsMember : ∀ t left (member : Text × Json),
        scanMember value t = .ok (member, left) → P below member.2 := by
      intro t left member found
      obtain ⟨_, _, _, -, -, -, held⟩ := scanMember_eq_ok.1 found
      exact holds _ _ _ held
    have each := items_forall_mem closer_brace (scanMember_local nearValue)
      (scanMember_apart value) holdsMember members
    exact inherited.obj (Keyed.nodup_keys_ofPairs pairs) fun member mem =>
      each member (Keyed.mem_of_mem_ofPairs mem)
  · obtain ⟨nearValue, apart⟩ := near value here
    obtain ⟨below, rfl, holds⟩ := inside value here
    exact inherited.arr (items_forall_mem closer_bracket nearValue apart holds items)
  · exact inherited.atom depth atom

theorem scanValue_inherited {P : Nat → Json → Prop} (inherited : Inherited P) {depth : Nat}
    {t left : Text} {v : Json} (read : scanValue depth t = .ok (v, left)) : P depth v := by
  induction depth generalizing t left v with
  | zero => exact scanWith_inherited inherited (by simp) (by simp) read
  | succ depth ih =>
      refine scanWith_inherited inherited ?_ ?_ read
      · intro value isNested
        obtain rfl := Option.some.inj isNested
        exact ⟨scanValue_local depth, scanValue_apart depth⟩
      · intro value isNested
        obtain rfl := Option.some.inj isNested
        exact ⟨depth, rfl, fun _ _ _ found => ih found⟩

theorem load_inherited {P : Nat → Json → Prop} (inherited : Inherited P) {d : Document} {v : Json}
    (read : load d = .ok v) : P depthLimit v := by
  have parsed : ∃ t, parse t = .ok v := by
    cases d with
    | octets content =>
        rw [load, bind_eq_ok] at read
        obtain ⟨t, -, parsed⟩ := read
        exact ⟨t, mapError_eq_ok.1 parsed⟩
    | text s =>
        rw [load] at read
        split at read
        · simp at read
        · exact ⟨_, mapError_eq_ok.1 read⟩
  obtain ⟨t, parsed⟩ := parsed
  obtain ⟨left, scanned, -⟩ := parse_eq_ok.1 parsed
  exact scanValue_inherited inherited scanned

/-! ## What is scanned is formed -/

/-- No word and no numeral has values inside. -/
theorem scanAtom_formed {t left : Text} {v : Json} (depth : Nat)
    (read : scanAtom t = .ok (v, left)) : Formed depth v := by
  rcases scanAtom_value read with rfl | ⟨b, rfl⟩ | ⟨n, -, rfl | ⟨-, rfl⟩⟩
  · exact .null depth
  · exact .bool depth b
  · exact .float depth _
  · exact .int depth _

theorem inherited_formed : Inherited Formed := ⟨scanAtom_formed, .str, .arr, .obj⟩

theorem scanValue_formed {depth : Nat} {t left : Text} {v : Json}
    (read : scanValue depth t = .ok (v, left)) : Formed depth v :=
  scanValue_inherited inherited_formed read

theorem load_formed {d : Document} {v : Json} (read : load d = .ok v) : Formed depthLimit v :=
  load_inherited inherited_formed read

/-! ## Reading with too few levels -/

/-- A readable value has a text that a reader with too few levels does not get through. -/
theorem Readable.tooDeep {n depth : Nat} {v : Json} (readable : Readable n v)
    (deep : depth < v.levels) : scanValue depth (print v) = .error .tooDeep := by
  by_contra enough
  have whole := readable.tight.takes.whole
  rw [scanValue_eq_of_le (Nat.le_of_lt deep) enough] at whole
  have few := (scanValue_formed whole).levels_le
  omega

/-- A readable value is read back from its octets, unless it has more levels than there
are to read with. -/
theorem load_encode_eq {n : Nat} {v : Json} (readable : Readable n v) :
    load (.octets v.encode) =
      if v.levels ≤ depthLimit then .ok v else .error (.json .tooDeep) := by
  split
  next within => exact load_encode (readable.tight.mono within)
  next beyond =>
    have token := (scanValue_local v.levels).token readable.tight.takes
    have solid := token.solid []
    rw [List.append_nil] at solid
    have failed : scanValue depthLimit (print v) = .error .tooDeep :=
      readable.tooDeep (Nat.lt_of_not_le beyond)
    rw [load, encode, Encoding.decode_token token]
    simp only [Except.mapError, bind, Except.bind, parse, scanDocument, skipBlanks_of_stops solid,
      failed, Fault.map]

/-! ## Any number of levels -/

/-- Empty brackets inside so many others. -/
def brackets : Nat → Json
  | 0 => .arr []
  | n + 1 => .arr [brackets n]

theorem levels_brackets (n : Nat) : (brackets n).levels = n + 1 := by
  induction n with
  | zero => rfl
  | succ n ih => simp [brackets, levels, itemLevels, ih]

theorem readable_brackets (n : Nat) : Readable (n + 1) (brackets n) := by
  induction n with
  | zero => exact .arr (by simp)
  | succ n ih => exact .arr (by simpa using ih)

end BlockWire.Json
