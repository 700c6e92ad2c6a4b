/- # What is written is read back

`Readable` is what survives writing and reading: no numbers with a point, since those
without end are written as words that are not read; whole numbers within the limit of
digits; no pair of surrogates in two halves; no key twice; and no more levels than
there are to read with. Each other value is read back from its written form
(`Readable.takes`), by induction on it. Whatever the value, what is written is printed ASCII
(`graphic_print`). -/
import BlockWire.Proofs.Json.Depth
import BlockWire.Proofs.Keyed

namespace BlockWire.Json

set_option autoImplicit false

/-- A value that is read back from its written form with so many levels. -/
inductive Readable : Nat → Json → Prop where
  | null (depth : Nat) : Readable depth .null
  | bool (depth : Nat) (b : Bool) : Readable depth (.bool b)
  | int (depth : Nat) {n : Int} (short : (Text.ofNat n.natAbs).length ≤ Text.digitLimit) :
      Readable depth (.int n)
  | str (depth : Nat) {t : Text} (unpaired : Unpaired t) : Readable depth (.str t)
  | arr {depth : Nat} {items : List Json} (each : ∀ item ∈ items, Readable depth item) :
      Readable (depth + 1) (.arr items)
  | obj {depth : Nat} {members : Keyed Json} (distinct : (Keyed.keys members).Nodup)
      (unpaired : ∀ key ∈ Keyed.keys members, Unpaired key)
      (each : ∀ member ∈ members, Readable depth member.2) : Readable (depth + 1) (.obj members)

theorem Readable.mono {depth depth' : Nat} {v : Json} (readable : Readable depth v)
    (le : depth ≤ depth') : Readable depth' v := by
  induction readable generalizing depth' with
  | null => exact .null depth'
  | bool _ b => exact .bool depth' b
  | int _ short => exact .int depth' short
  | str _ unpaired => exact .str depth' unpaired
  | arr _ ih =>
      obtain ⟨below, rfl⟩ := Nat.exists_eq_add_of_lt (Nat.lt_of_succ_le le)
      exact .arr fun item mem => ih item mem (Nat.le_add_right _ _)
  | obj distinct unpaired _ ih =>
      obtain ⟨below, rfl⟩ := Nat.exists_eq_add_of_lt (Nat.lt_of_succ_le le)
      exact .obj distinct unpaired fun member mem => ih member mem (Nat.le_add_right _ _)

theorem Readable.single {depth : Nat} {key : Text} {v : Json} (unpaired : Unpaired key)
    (inside : Readable depth v) : Readable (depth + 1) (.obj [(key, v)]) := by
  refine .obj (List.nodup_singleton key) ?_ ?_
  · exact List.forall_mem_singleton.2 unpaired
  · exact List.forall_mem_singleton.2 inside

theorem printItems_eq_map (items : List Json) : printItems items = items.map print := by
  induction items with
  | nil => rfl
  | cons item rest ih => rw [printItems, ih, List.map_cons]

/-- A member as it is written. -/
def printMember (member : Text × Json) : Text := printString member.1 ++ ":" ++ print member.2

theorem printMembers_eq_map (members : List (Text × Json)) :
    printMembers members = members.map printMember := by
  induction members with
  | nil => rfl
  | cons member rest ih =>
      obtain ⟨key, value⟩ := member
      rw [printMembers, ih, List.map_cons]
      rfl

/-! ## Reading what was written -/

section

variable {nested : Option (Scan (Fault Text) Json)} {value : Scan (Fault Text) Json}

theorem takes_word (word : Text × Json) (listed : word ∈ words) :
    Takes (scanWith nested) word.1 word.2 := by
  intro rest _
  have atom := scanAtom_word listed rest
  simp only [words, List.mem_cons, List.not_mem_nil, or_false] at listed
  rcases listed with rfl | rfl | rfl <;>
    exact (scanWith_atom (by decide) (by decide) (by decide) _).trans atom

theorem takes_int {n : Int} (short : (Text.ofNat n.natAbs).length ≤ Text.digitLimit) :
    Takes (scanWith nested) (print (.int n)) (.int n) := by
  intro rest ends
  have scanned := Numeral.scan?_ofInt n ends
  have denoted : Numeral.signed (decide (n < 0)) n.natAbs = n := by
    unfold Numeral.signed
    split
    next negative =>
      rw [decide_eq_true_eq] at negative
      omega
    next positive =>
      rw [decide_eq_true_eq] at positive
      omega
  rw [print, scanWith_of_numeral scanned, scanNumber]
  simp only [scanned, Numeral.isWhole, Numeral.toInt, Text.digitsValue_ofNat, denoted,
    List.isEmpty_nil, Option.isNone_none, Bool.and_self, Bool.not_true, Bool.false_eq_true,
    if_false, if_neg (Nat.not_lt.2 short)]

theorem takes_str_joined (t : Text) :
    Takes (scanWith nested) (print (.str t)) (.str (Wide.joinPairs t)) := by
  intro rest _
  have read := scanString_printString_joined t rest
  rw [printString_eq, List.cons_append] at read
  rw [print, printString_eq, List.cons_append, scanWith_quote, read]
  rfl

theorem takes_str {t : Text} (unpaired : Unpaired t) :
    Takes (scanWith nested) (print (.str t)) (.str t) := by
  have taken : Takes (scanWith nested) _ _ := takes_str_joined t
  rwa [joinPairs_of_unpaired unpaired] at taken

theorem print_arr_append (items : List Json) (rest : Text) :
    print (.arr items) ++ rest =
      .ofChar '[' :: (Text.join "," (items.map print) ++ .ofChar ']' :: rest) := by
  rw [print, printItems_eq_map, bracketed, List.append_assoc, List.append_assoc]
  rfl

theorem print_obj_append (members : Keyed Json) (rest : Text) :
    print (.obj members) ++ rest =
      .ofChar '\x7b' :: (Text.join "," (members.map printMember) ++ .ofChar '\x7d' :: rest) := by
  rw [print, printMembers_eq_map, bracketed, List.append_assoc, List.append_assoc]
  rfl

/-- An array is read from its items, whatever each is read as. -/
theorem takes_arr_of_parts (near : Local value) (apart : Apart value (.ofChar ']'))
    {items found : List Json} (parts : List.Forall₂ (Takes value) (items.map print) found) :
    Takes (scanWith (some value)) (print (.arr items)) (.arr found) := by
  intro rest _
  rw [print_arr_append, scanWith_bracket, items_join closer_bracket near apart parts]
  rfl

theorem takes_obj_of_parts (near : Local value) {members : Keyed Json} {found : List (Text × Json)}
    (parts : List.Forall₂ (Takes (scanMember value)) (members.map printMember) found) :
    Takes (scanWith (some value)) (print (.obj members)) (.obj (Keyed.ofPairs found)) := by
  intro rest _
  rw [print_obj_append, scanWith_brace,
    items_join closer_brace (scanMember_local near) (scanMember_apart value) parts]
  rfl

theorem takes_arr (near : Local value) (apart : Apart value (.ofChar ']')) {items : List Json}
    (each : ∀ item ∈ items, Takes value (print item) item) :
    Takes (scanWith (some value)) (print (.arr items)) (.arr items) := by
  apply takes_arr_of_parts near apart
  rw [List.forall₂_map_left_iff, List.forall₂_same]
  exact each

theorem takes_obj (near : Local value) {members : Keyed Json}
    (distinct : (Keyed.keys members).Nodup) (unpaired : ∀ key ∈ Keyed.keys members, Unpaired key)
    (each : ∀ member ∈ members, Takes value (print member.2) member.2) :
    Takes (scanWith (some value)) (print (.obj members)) (.obj members) := by
  have parts : List.Forall₂ (Takes (scanMember value)) (members.map printMember) members := by
    rw [List.forall₂_map_left_iff, List.forall₂_same]
    intro member mem rest ends
    have key := unpaired member.1 (List.mem_map_of_mem mem)
    exact scanMember_eq_ok.2 (isMember_written key near (each member mem) ends)
  have taken := takes_obj_of_parts near parts
  rwa [Keyed.ofPairs_of_nodup distinct] at taken

end

theorem Readable.takes {depth : Nat} {v : Json} (readable : Readable depth v) :
    Takes (scanValue depth) (print v) v := by
  induction readable with
  | null depth => cases depth <;> exact takes_word ("null", .null) (by simp [words])
  | bool depth b =>
      cases b with
      | true => cases depth <;> exact takes_word ("true", .bool true) (by simp [words])
      | false => cases depth <;> exact takes_word ("false", .bool false) (by simp [words])
  | int depth short => cases depth <;> exact takes_int short
  | str depth unpaired => cases depth <;> exact takes_str unpaired
  | arr _ ih => exact takes_arr (scanValue_local _) (scanValue_apart _) ih
  | obj distinct unpaired _ ih => exact takes_obj (scanValue_local _) distinct unpaired ih

/-! ## What is written is ASCII -/

section

variable {p : CodePoint → Prop}

theorem forall_mem_join (comma : p (.ofChar ',')) {parts : List Text}
    (each : ∀ s ∈ parts, ∀ c ∈ s, p c) : ∀ c ∈ Text.join "," parts, p c := by
  induction parts with
  | nil => simp [Text.join]
  | cons s rest ih =>
      obtain ⟨here, later⟩ := List.forall_mem_cons.1 each
      cases rest with
      | nil => exact here
      | cons s' rest =>
          rw [Text.join_cons_cons, List.forall_mem_append, List.forall_mem_append]
          exact ⟨⟨here, List.forall_mem_singleton.2 comma⟩, ih later⟩

/-- What holds of brackets, commas and parts holds of all that is between brackets. -/
theorem forall_mem_bracketed (comma : p (.ofChar ',')) {left right : Text} {parts : List Text}
    (opening : ∀ c ∈ left, p c) (closing : ∀ c ∈ right, p c)
    (each : ∀ s ∈ parts, ∀ c ∈ s, p c) : ∀ c ∈ bracketed left right parts, p c := by
  rw [bracketed, List.forall_mem_append, List.forall_mem_append]
  exact ⟨⟨opening, forall_mem_join comma each⟩, closing⟩

end

def Ascii (t : Text) : Prop := ∀ c ∈ t, c.val < 0x80

instance (t : Text) : Decidable (Ascii t) := List.decidableBAll _ t

theorem Ascii.plain {t : Text} (ascii : Ascii t) : ∀ c ∈ t, c.isSurrogate = false := by
  intro c mem
  have low := ascii c mem
  simp only [CodePoint.isSurrogate, Bool.and_eq_false_iff, decide_eq_false_iff_not]
  omega

/-- ASCII that is printed, blanks included. -/
def Graphic (t : Text) : Prop := ∀ c ∈ t, 0x20 ≤ c.val ∧ c.val < 0x7F

instance (t : Text) : Decidable (Graphic t) := List.decidableBAll _ t

theorem Graphic.append {s t : Text} (front : Graphic s) (back : Graphic t) : Graphic (s ++ t) :=
  List.forall_mem_append.2 ⟨front, back⟩

theorem Graphic.ascii {t : Text} (graphic : Graphic t) : Ascii t := by
  intro c mem
  have high := (graphic c mem).2
  omega

theorem Graphic.plain {t : Text} (graphic : Graphic t) : ∀ c ∈ t, c.isSurrogate = false :=
  graphic.ascii.plain

theorem Graphic.noZero {t : Text} (graphic : Graphic t) : ∀ c ∈ t, c.val ≠ 0 := by
  intro c mem
  have low := (graphic c mem).1
  omega

theorem graphic_of_decimal {digits : Text} (decimal : ∀ c ∈ digits, c.isDigit = true) :
    Graphic digits := by
  intro c mem
  have digit := decimal c mem
  simp only [CodePoint.isDigit, Bool.and_eq_true, decide_eq_true_eq] at digit
  omega

theorem graphic_ofNat (n : Nat) : Graphic (Text.ofNat n) :=
  graphic_of_decimal fun _ => Text.isDigit_of_mem_ofNat

theorem graphic_ofInt (n : Int) : Graphic (Text.ofInt n) := by
  rw [Text.ofInt]
  split
  · exact List.forall_mem_cons.2 ⟨by decide, graphic_ofNat _⟩
  · exact graphic_ofNat _

/-! ### Strings -/

theorem graphic_digit {n : Nat} (small : n < 16) :
    0x20 ≤ (Hex.digit n).val ∧ (Hex.digit n).val < 0x7F := by
  revert small n
  decide

theorem graphic_of_isDigit {digits : Text} (all : ∀ c ∈ digits, Hex.isDigit c = true) :
    Graphic digits := by
  intro c mem
  have bounds := Hex.bounds_of_isDigit (all c mem)
  omega

theorem graphic_padded (width n : Nat) : Graphic (Hex.padded width n) := by
  induction width generalizing n with
  | zero => simp [Hex.padded, Graphic]
  | succ width ih =>
      refine (ih _).append fun c mem => ?_
      rw [List.mem_singleton.1 mem]
      exact graphic_digit (Nat.mod_lt n (by decide))

theorem graphic_unitEscape (c : CodePoint) : Graphic (unitEscape c) := by
  have mark : Graphic (Text.ofString "\\u") := by decide
  exact mark.append (graphic_padded 4 c.val)

theorem graphic_escaped (c : CodePoint) : Graphic (escaped c) := by
  rcases escaped_cases c with ⟨e, written, escape⟩ | ⟨written, -, -, low, high⟩ | ⟨written, -⟩ |
    ⟨written, -⟩ <;> rw [written]
  · rw [Graphic, List.forall_mem_cons, List.forall_mem_singleton]
    obtain ⟨low, high, -⟩ := simpleEscape?_printable escape
    exact ⟨by decide, low, high⟩
  · intro d mem
    rw [List.mem_singleton.1 mem]
    exact ⟨low, high⟩
  · exact graphic_unitEscape c
  · exact (graphic_unitEscape _).append (graphic_unitEscape _)

theorem graphic_printString (t : Text) : Graphic (printString t) := by
  have quote : Graphic (Text.ofString "\"") := by decide
  have inside : Graphic (t.flatMap escaped) := by
    intro d mem
    obtain ⟨c, -, inEscape⟩ := List.mem_flatMap.1 mem
    exact graphic_escaped c d inEscape
  exact (quote.append inside).append quote

/-! ### Numbers with a point -/

theorem graphic_zeros (n : Nat) : Graphic (Binary64.zeros n) := by
  intro c mem
  rw [List.eq_of_mem_replicate mem]
  decide

theorem graphic_exponentText (exponent : Int) : Graphic (Binary64.exponentText exponent) := by
  have sign : Graphic (if exponent < 0 then Text.ofString "-" else Text.ofString "+") := by
    split <;> decide
  have mark : Graphic (Text.ofString "e") := by decide
  exact (mark.append sign).append ((graphic_zeros _).append (graphic_ofNat _))

theorem graphic_layout {digits : Text} (graphic : Graphic digits) (power : Int) :
    Graphic (Binary64.layout digits power) := by
  have point : Graphic (Text.ofString ".") := by decide
  have front (n : Nat) : Graphic (digits.take n) := fun c mem => graphic c (List.mem_of_mem_take mem)
  have back (n : Nat) : Graphic (digits.drop n) := fun c mem => graphic c (List.mem_of_mem_drop mem)
  simp only [Binary64.layout]
  split
  · split
    · exact (Graphic.append (by decide) (graphic_zeros _)).append graphic
    split
    · exact (graphic.append (graphic_zeros _)).append (by decide)
    · exact ((front _).append point).append (back _)
  · refine ((front 1).append ?_).append (graphic_exponentText _)
    split
    · exact List.forall_mem_nil _
    · exact point.append (back 1)

theorem graphic_display (x : Binary64) : Graphic x.display := by
  have sign (negative : Bool) : Graphic (Binary64.signText negative) := by
    cases negative <;> decide
  cases x with
  | nan => decide
  | infinite negative => exact (sign negative).append (by decide)
  | finite negative m q =>
      refine (sign negative).append ?_
      split
      · decide
      · exact graphic_layout (graphic_ofNat _) _

theorem graphic_printFloat (x : Binary64) : Graphic (printFloat x) := by
  unfold printFloat
  split
  · decide
  · decide
  · decide
  · exact graphic_display x

/-! ### All values -/

/-- A value holds values only as an array's items or as an object's members. -/
@[elab_as_elim] theorem induction {motive : Json → Prop} (null : motive .null)
    (bool : ∀ b, motive (.bool b)) (int : ∀ n, motive (.int n)) (float : ∀ x, motive (.float x))
    (str : ∀ t, motive (.str t))
    (arr : ∀ items, (∀ item ∈ items, motive item) → motive (.arr items))
    (obj : ∀ members, (∀ member ∈ members, motive member.2) → motive (.obj members))
    (v : Json) : motive v :=
  @Json.rec motive (fun items => ∀ item ∈ items, motive item)
    (fun members => ∀ member ∈ members, motive member.2) (fun member => motive member.2)
    null bool int float str arr obj
    (fun _ mem => absurd mem List.not_mem_nil)
    (fun _ _ head tail => List.forall_mem_cons.2 ⟨head, tail⟩)
    (fun _ mem => absurd mem List.not_mem_nil)
    (fun _ _ head tail => List.forall_mem_cons.2 ⟨head, tail⟩)
    (fun _ _ second => second) v

theorem graphic_print (v : Json) : Graphic (print v) := by
  induction v using Json.induction with
  | null => decide
  | bool b => cases b <;> decide
  | int n => exact graphic_ofInt n
  | float x => exact graphic_printFloat x
  | str t => exact graphic_printString t
  | arr items ih =>
      rw [print, printItems_eq_map]
      exact forall_mem_bracketed (by decide) (by decide) (by decide) (List.forall_mem_map.2 ih)
  | obj members ih =>
      have colon : Graphic (Text.ofString ":") := by decide
      rw [print, printMembers_eq_map]
      refine forall_mem_bracketed (by decide) (by decide) (by decide)
        (List.forall_mem_map.2 fun member mem => ?_)
      exact ((graphic_printString _).append colon).append (ih member mem)

end BlockWire.Json
