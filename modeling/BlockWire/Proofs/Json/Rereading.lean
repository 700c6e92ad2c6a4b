/- # Which values can be written and read again

Whatever is read is `Sound`: its whole numbers are within the limit of digits, and its numbers
with a point are rounded. Such a value can be written and read again exactly if none of those
is infinite (`isFinite`), since the word for an infinite number is one that is not read.

The halves of pairs may be joined on the way, so what is read the second time need not be the
value itself; and what is not read fails wherever it stands. Both are said of all depths at
once (`Sound.takes_or_rejects`), by induction on the value: an array or an object is taken
apart item by item, and one item that is rejected spoils the whole. -/
import BlockWire.Proofs.Json.FloatText
import BlockWire.Proofs.Json.Levels

namespace BlockWire.Json

set_option autoImplicit false

mutual

/-- Each number with a point in the value is finite. -/
def isFinite : Json → Bool
  | .float x => x.isFinite
  | .arr items => itemsFinite items
  | .obj members => membersFinite members
  | _ => true

def itemsFinite : List Json → Bool
  | [] => true
  | item :: rest => item.isFinite && itemsFinite rest

def membersFinite : List (Text × Json) → Bool
  | [] => true
  | (_, value) :: rest => value.isFinite && membersFinite rest

end

theorem itemsFinite_iff {items : List Json} :
    itemsFinite items = true ↔ ∀ item ∈ items, item.isFinite = true := by
  induction items with
  | nil => simp [itemsFinite]
  | cons item rest ih => rw [itemsFinite, Bool.and_eq_true, ih, List.forall_mem_cons]

theorem membersFinite_iff {members : List (Text × Json)} :
    membersFinite members = true ↔ ∀ member ∈ members, member.2.isFinite = true := by
  induction members with
  | nil => simp [membersFinite]
  | cons member rest ih =>
      obtain ⟨key, value⟩ := member
      rw [membersFinite, Bool.and_eq_true, ih, List.forall_mem_cons]

/-! ## What is read is sound -/

/-- Whole numbers are within the limit of digits, numbers with a point are rounded. -/
inductive Sound : Json → Prop where
  | null : Sound .null
  | bool (b : Bool) : Sound (.bool b)
  | int {n : Int} (short : (Text.ofNat n.natAbs).length ≤ Text.digitLimit) : Sound (.int n)
  | float {x : Binary64} (bounded : x.Bounded) : Sound (.float x)
  | str (t : Text) : Sound (.str t)
  | arr {items : List Json} (each : ∀ item ∈ items, Sound item) : Sound (.arr items)
  | obj {members : Keyed Json} (each : ∀ member ∈ members, Sound member.2) :
      Sound (.obj members)

/-- A whole number has no more digits than the numeral that it is read from. -/
theorem length_ofNat_toInt_le {t left : Text} {n : Numeral}
    (scanned : Numeral.scan? t = some (n, left)) :
    (Text.ofNat n.toInt.natAbs).length ≤ n.whole.length := by
  simp only [Numeral.scan?] at scanned
  split at scanned
  · cases scanned
  next whole rest found =>
    obtain ⟨rfl, -⟩ := Prod.mk.inj (Option.some.inj scanned)
    obtain ⟨-, nonempty, digits, -⟩ := Numeral.scanWhole?_local found
    have value : (Numeral.signed (Numeral.scanMinus t).1 whole.digitsValue).natAbs =
        whole.digitsValue := by
      unfold Numeral.signed
      split
      · rw [Int.natAbs_neg, Int.natAbs_natCast]
      · rw [Int.natAbs_natCast]
    apply (Text.length_ofNat_le_iff (List.length_pos_iff.2 nonempty)).2
    rw [Numeral.toInt, value]
    exact Numeral.digitsValue_lt digits

theorem scanAtom_sound {t left : Text} {v : Json} (read : scanAtom t = .ok (v, left)) :
    Sound v := by
  rcases scanAtom_value read with rfl | ⟨b, rfl⟩ | ⟨n, scanned, rfl | ⟨short, rfl⟩⟩
  · exact .null
  · exact .bool b
  · exact .float n.bounded_toBinary64
  · exact .int (Nat.le_trans (length_ofNat_toInt_le scanned) short)

theorem load_sound {d : Document} {v : Json} (read : load d = .ok v) : Sound v := by
  have inherited : Inherited fun _ v => Sound v := by
    constructor
    · exact fun _ atom => scanAtom_sound atom
    · exact fun _ t => .str t
    · exact fun each => .arr each
    · exact fun _ each => .obj each
  exact load_inherited inherited read

/-! ## Written again -/

/-- A word that stands for a number is not read, whatever stands behind it. -/
theorem rejects_constant {nested : Option (Scan (Fault Text) Json)} {name : Text}
    (listed : name ∈ constants) : Rejects (scanWith nested) name := by
  simp only [constants, List.mem_cons, List.not_mem_nil, or_false] at listed
  constructor
  case starts => rcases listed with rfl | rfl | rfl <;> exact ⟨_, _, rfl, by decide, by decide⟩
  case never =>
    intro rest read found
    have constant : scanAtom (name ++ rest) = .error (.constant name) := by
      rcases listed with rfl | rfl | rfl <;> rfl
    have atom : scanWith nested (name ++ rest) = scanAtom (name ++ rest) := by
      rcases listed with rfl | rfl | rfl <;>
        exact scanWith_atom (by decide) (by decide) (by decide) _
    rw [atom, constant] at found
    cases found

theorem printFloat_mem_constants {x : Binary64} (infinite : x.isFinite = false) :
    printFloat x ∈ constants := by
  cases x with
  | finite negative m q => cases infinite
  | nan => simp [printFloat, constants]
  | infinite negative => cases negative <;> simp [printFloat, constants]

/-- What stands between brackets is rejected if there may be nothing inside. -/
theorem rejects_none {c : CodePoint} {s : Text} (opens : c = .ofChar '\x7b' ∨ c = .ofChar '[') :
    Rejects (scanWith none) (c :: s) := by
  constructor
  case starts =>
    rcases opens with rfl | rfl <;> exact ⟨_, _, rfl, by decide, by decide⟩
  case never =>
    intro rest read found
    rw [List.cons_append, scanWith_none opens] at found
    cases found

section

variable {value : Scan (Fault Text) Json}

theorem rejects_arr (near : Local value) (apart : Apart value (.ofChar ']')) {items : List Json}
    (each : ∀ item ∈ items,
      (∃ x, Takes value (print item) x) ∨ Rejects value (print item))
    (bad : ∃ item ∈ items, Rejects value (print item)) :
    Rejects (scanWith (some value)) (print (.arr items)) := by
  have shape := print_arr_append items []
  rw [List.append_nil] at shape
  refine ⟨⟨_, _, shape, by decide, by decide⟩, ?_⟩
  intro rest read found
  rw [print_arr_append, scanWith_bracket, bind_eq_ok] at found
  obtain ⟨inside, found, -⟩ := found
  refine items_ne_ok closer_bracket (by decide) near apart (List.forall_mem_map.2 each) ?_ rest
    inside found
  obtain ⟨item, mem, rejected⟩ := bad
  exact ⟨_, List.mem_map_of_mem mem, rejected⟩

theorem rejects_member {member : Text × Json} (rejected : Rejects value (print member.2)) :
    Rejects (scanMember value) (printMember member) := by
  refine ⟨⟨_, _, rfl, by decide, by decide⟩, ?_⟩
  intro rest read found
  obtain ⟨found', left⟩ := read
  exact not_isMember_written member.1 rejected rest found' left (scanMember_eq_ok.1 found)

theorem takes_member (near : Local value) {member : Text × Json} {x : Json}
    (takes : Takes value (print member.2) x) :
    Takes (scanMember value) (printMember member) (Wide.joinPairs member.1, x) := by
  intro rest ends
  exact scanMember_eq_ok.2 (isMember_written_joined member.1 near takes ends)

theorem rejects_obj (near : Local value) {members : Keyed Json}
    (each : ∀ member ∈ members,
      (∃ x, Takes value (print member.2) x) ∨ Rejects value (print member.2))
    (bad : ∃ member ∈ members, Rejects value (print member.2)) :
    Rejects (scanWith (some value)) (print (.obj members)) := by
  have shape := print_obj_append members []
  rw [List.append_nil] at shape
  refine ⟨⟨_, _, shape, by decide, by decide⟩, ?_⟩
  intro rest read found
  rw [print_obj_append, scanWith_brace, bind_eq_ok] at found
  obtain ⟨inside, found, -⟩ := found
  refine items_ne_ok closer_brace (by decide) (scanMember_local near) (scanMember_apart value)
    (List.forall_mem_map.2 fun member mem => ?_) ?_ rest inside found
  · rcases each member mem with ⟨x, takes⟩ | rejected
    · exact .inl ⟨_, takes_member near takes⟩
    · exact .inr (rejects_member rejected)
  · obtain ⟨member, mem, rejected⟩ := bad
    exact ⟨_, List.mem_map_of_mem mem, rejects_member rejected⟩

end

/-- Where each part is taken or rejected, all are taken or there is one that is rejected. -/
theorem forall_or_exists {α β : Type} {fits rejected : α → Prop} {taken : α → β → Prop}
    {parts : List α}
    (each : ∀ part ∈ parts, (fits part ∧ ∃ x, taken part x) ∨ (¬ fits part ∧ rejected part)) :
    ((∀ part ∈ parts, fits part) ∧ ∃ found, List.Forall₂ taken parts found) ∨
      ((¬ ∀ part ∈ parts, fits part) ∧ ∃ part ∈ parts, rejected part) := by
  induction parts with
  | nil => exact .inl ⟨List.forall_mem_nil _, [], .nil⟩
  | cons part rest ih =>
      obtain ⟨here, later⟩ := List.forall_mem_cons.1 each
      rw [List.forall_mem_cons, List.exists_mem_cons_iff]
      rcases here with ⟨fits, x, taken⟩ | ⟨unfit, rejected⟩
      · rcases ih later with ⟨all, found, parts⟩ | ⟨bad, rejected⟩
        · exact .inl ⟨⟨fits, all⟩, x :: found, .cons taken parts⟩
        · exact .inr ⟨fun all => bad all.2, .inr rejected⟩
      · exact .inr ⟨fun all => unfit all.1, .inl rejected⟩

/-- The values that are read again with so many levels. -/
def Fits (depth : Nat) (v : Json) : Prop := v.isFinite = true ∧ v.levels ≤ depth

theorem fits_arr {depth : Nat} {items : List Json} :
    Fits (depth + 1) (.arr items) ↔ ∀ item ∈ items, Fits depth item := by
  simp only [Fits, isFinite, levels, itemsFinite_iff, Nat.succ_le_succ_iff, itemLevels_le,
    forall_and]

theorem fits_obj {depth : Nat} {members : Keyed Json} :
    Fits (depth + 1) (.obj members) ↔ ∀ member ∈ members, Fits depth member.2 := by
  simp only [Fits, isFinite, levels, membersFinite_iff, Nat.succ_le_succ_iff, memberLevels_le,
    forall_and]

theorem fits_flat {depth : Nat} {v : Json} (finite : v.isFinite = true) (bare : v.levels = 0) :
    Fits depth v :=
  ⟨finite, bare ▸ Nat.zero_le depth⟩

theorem takes_or_rejects_float {depth : Nat} {x : Binary64} (bounded : x.Bounded) :
    (Fits depth (.float x) ∧ ∃ y, Takes (scanValue depth) (print (.float x)) y) ∨
      (¬ Fits depth (.float x) ∧ Rejects (scanValue depth) (print (.float x))) := by
  cases finite : x.isFinite with
  | true =>
      refine .inl ⟨fits_flat finite rfl, ?_⟩
      cases depth
      all_goals
        obtain ⟨y, takes⟩ := takes_float bounded finite
        exact ⟨_, takes⟩
  | false =>
      right
      constructor
      · rintro ⟨isFinite, -⟩
        exact Bool.false_ne_true (finite.symm.trans isFinite)
      · cases depth <;> exact rejects_constant (printFloat_mem_constants finite)

/-- What is written for a sound value is read, or it is rejected, and which of both is settled by
its numbers and its levels. -/
theorem Sound.takes_or_rejects {v : Json} (sound : Sound v) (depth : Nat) :
    (Fits depth v ∧ ∃ x, Takes (scanValue depth) (print v) x) ∨
      (¬ Fits depth v ∧ Rejects (scanValue depth) (print v)) := by
  induction sound generalizing depth with
  | null => exact .inl ⟨fits_flat rfl rfl, .null, (Readable.null depth).takes⟩
  | bool b => exact .inl ⟨fits_flat rfl rfl, .bool b, (Readable.bool depth b).takes⟩
  | @int n short => exact .inl ⟨fits_flat rfl rfl, .int n, (Readable.int depth short).takes⟩
  | float bounded => exact takes_or_rejects_float bounded
  | str t =>
      refine .inl ⟨fits_flat rfl rfl, .str (Wide.joinPairs t), ?_⟩
      cases depth <;> exact takes_str_joined t
  | @arr items _ ih =>
      cases depth with
      | zero =>
          refine .inr ⟨fun fits => Nat.not_succ_le_zero _ fits.2, ?_⟩
          rw [← List.append_nil (print (.arr items)), print_arr_append]
          exact rejects_none (.inr rfl)
      | succ depth =>
          have near := scanValue_local depth
          have apart := scanValue_apart depth
          rw [fits_arr]
          rcases forall_or_exists fun item mem => ih item mem depth with
            ⟨all, found, parts⟩ | ⟨bad, rejected⟩
          · exact .inl ⟨all, _, takes_arr_of_parts near apart (List.forall₂_map_left_iff.2 parts)⟩
          · refine .inr ⟨bad, rejects_arr near apart (fun item mem => ?_) rejected⟩
            exact (ih item mem depth).imp And.right And.right
  | @obj members _ ih =>
      cases depth with
      | zero =>
          refine .inr ⟨fun fits => Nat.not_succ_le_zero _ fits.2, ?_⟩
          rw [← List.append_nil (print (.obj members)), print_obj_append]
          exact rejects_none (.inl rfl)
      | succ depth =>
          have near := scanValue_local depth
          rw [fits_obj]
          have parts : ∀ member ∈ members,
              (Fits depth member.2 ∧
                ∃ x, Takes (scanMember (scanValue depth)) (printMember member) x) ∨
              (¬ Fits depth member.2 ∧ Rejects (scanValue depth) (print member.2)) := by
            intro member mem
            refine (ih member mem depth).imp_left (And.imp_right ?_)
            rintro ⟨x, takes⟩
            exact ⟨_, takes_member near takes⟩
          rcases forall_or_exists parts with ⟨all, found, parts⟩ | ⟨bad, rejected⟩
          · exact .inl ⟨all, _, takes_obj_of_parts near (List.forall₂_map_left_iff.2 parts)⟩
          · refine .inr ⟨bad, rejects_obj near (fun member mem => ?_) rejected⟩
            exact (ih member mem depth).imp And.right And.right

theorem kind_eq_obj {v : Json} : v.kind = .obj ↔ ∃ members, v = .obj members := by
  cases v <;> simp [kind]

/-- Whatever is read from a written object is an object. -/
theorem exists_obj_of_takes {depth : Nat} {members : Keyed Json} {x : Json}
    (takes : Takes (scanValue (depth + 1)) (print (.obj members)) x) :
    ∃ found, x = .obj found := by
  have read : scanWith (some (scanValue depth)) _ = _ := takes.whole
  rw [← List.append_nil (print (.obj members)), print_obj_append, scanWith_brace,
    bind_eq_ok] at read
  obtain ⟨inside, -, same⟩ := read
  obtain ⟨rfl, -⟩ := Prod.mk.inj (Except.ok.inj same)
  exact ⟨_, rfl⟩

/-! ## Octets -/

/-- The octets of what is written are read as what is written. -/
theorem Sound.decode_encode {v : Json} (sound : Sound v) :
    Encoding.decode v.encode = .ok (print v) := by
  have starts : ∃ c rest, print v = c :: rest := by
    rcases sound.takes_or_rejects 0 with ⟨-, x, takes⟩ | ⟨-, rejected⟩
    · obtain ⟨c, rest, shape, -⟩ := ((scanValue_local 0).token takes).starts
      exact ⟨c, rest, shape⟩
    · obtain ⟨c, rest, shape, -⟩ := rejected.starts
      exact ⟨c, rest, shape⟩
  obtain ⟨c, rest, shape⟩ := starts
  have graphic := graphic_print v
  have first : c ∈ print v := shape ▸ List.mem_cons_self
  exact Encoding.decode_encode graphic.noZero ⟨c, rest, shape, graphic.ascii c first⟩

/-- A sound value is read again from its octets exactly if it fits. -/
theorem Sound.load_encode_iff {v : Json} (sound : Sound v) :
    (∃ x, load (.octets v.encode) = .ok x) ↔ Fits depthLimit v := by
  rcases sound.takes_or_rejects depthLimit with ⟨fits, x, takes⟩ | ⟨unfit, rejected⟩
  · exact iff_of_true ⟨x, load_of_takes takes⟩ fits
  · refine iff_of_false ?_ unfit
    rintro ⟨x, read⟩
    rw [load, sound.decode_encode] at read
    obtain ⟨left, scanned, -⟩ := parse_eq_ok.1 (mapError_eq_ok.1 read)
    exact rejected.not_scanned scanned

end BlockWire.Json
