/- # Numbers with a point as numerals

A finite number is written as a numeral that is not whole (`exists_spelled`), so it is read
again as a number, whatever stands behind it (`takes_float`). However the digits are laid out,
there is a digit behind a point or an exponent, and what stands before the point begins with a
zero only if nothing follows that zero. The digits themselves see to the latter: they are not
zero where zeros are put behind them (`Binary64.Tidy`). -/
import BlockWire.Proofs.Json.ValueText
import BlockWire.Proofs.Number.Shortest

namespace BlockWire

set_option autoImplicit false

namespace Binary64

open Numeral (Spellable spelled fractionText markText)

theorem isDigit_of_mem_zeros {n : Nat} {c : CodePoint} (mem : c ∈ zeros n) : c.isDigit = true := by
  rw [List.eq_of_mem_replicate mem]
  rfl

theorem isDigit_of_mem_padded {width n : Nat} {c : CodePoint} (mem : c ∈ Text.padded width n) :
    c.isDigit = true := by
  rcases List.mem_append.1 mem with zero | digit
  · exact isDigit_of_mem_zeros zero
  · exact Text.isDigit_of_mem_ofNat digit

theorem fractionText_of_ne_nil {digits : Text} (nonempty : digits ≠ []) :
    fractionText digits = "." ++ digits := by
  rw [fractionText, if_neg (by simpa using nonempty)]
  rfl

/-- Digits of a number, laid out as its power of ten has it. -/
structure Written (digits : Text) (power : Int) : Prop where
  nonempty : digits ≠ []
  decimal : ∀ c ∈ digits, c.isDigit = true
  leading : ∀ rest, digits = .ofChar '0' :: rest → rest = [] ∧ power ≤ 0

theorem Tidy.written {found : Nat × Int} (tidy : Tidy found) :
    Written (Text.ofNat found.1) found.2 where
  nonempty := Text.ofNat_ne_nil _
  decimal := fun c => Text.isDigit_of_mem_ofNat
  leading := by
    intro rest zero
    obtain rfl := Numeral.ofNat_of_leading_zero zero
    refine ⟨rfl, ?_⟩
    have value : found.1 = 0 := by
      calc found.1 = Text.digitsValue (Text.ofNat found.1) := (Text.digitsValue_ofNat _).symm
        _ = 0 := by rw [zero]; rfl
    rcases tidy with nonzero | small
    · exact absurd value nonzero
    · exact small

section

variable {digits : Text} {power : Int} (written : Written digits power) (negative : Bool)

include written

/-- Everything behind the point, with zeros in front. -/
theorem exists_spelled_below :
    ∃ n : Numeral, n.Spellable ∧ n.isWhole = false ∧
      signText negative ++ ("0." ++ zeros (-(digits.length + power)).toNat ++ digits) =
        n.spelled := by
  have nonempty : zeros (-(digits.length + power)).toNat ++ digits ≠ [] :=
    List.append_ne_nil_of_right_ne_nil _ written.nonempty
  refine ⟨⟨negative, "0", zeros (-(digits.length + power)).toNat ++ digits, none⟩, ?_, ?_, ?_⟩
  · constructor <;> dsimp only
    · exact ⟨by decide, by decide⟩
    · rintro rest ⟨⟩
      rfl
    · intro c mem
      rcases List.mem_append.1 mem with zero | digit
      · exact isDigit_of_mem_zeros zero
      · exact written.decimal c digit
    · simp
  · simpa [Numeral.isWhole] using fun _ => written.nonempty
  · rw [spelled, fractionText_of_ne_nil nonempty]
    simp [markText, Text.ofString]

/-- Everything before the point, with zeros behind. -/
theorem exists_spelled_above (point : digits.length ≤ digits.length + power) :
    ∃ n : Numeral, n.Spellable ∧ n.isWhole = false ∧
      signText negative ++
        (digits ++ zeros (digits.length + power - digits.length).toNat ++ ".0") = n.spelled := by
  refine ⟨⟨negative, digits ++ zeros (digits.length + power - digits.length).toNat, "0", none⟩,
    ?_, rfl, ?_⟩
  · constructor <;> dsimp only
    · refine ⟨List.append_ne_nil_of_left_ne_nil written.nonempty _, fun c mem => ?_⟩
      rcases List.mem_append.1 mem with digit | zero
      · exact written.decimal c digit
      · exact isDigit_of_mem_zeros zero
    · -- A leading zero is the only digit, and nothing is put behind it.
      intro rest same
      obtain ⟨c, more, shape⟩ := List.exists_cons_of_ne_nil written.nonempty
      simp only [shape, List.cons_append] at same
      obtain ⟨rfl, rfl⟩ := List.cons.inj same
      obtain ⟨rfl, small⟩ := written.leading more shape
      have none : (digits.length + power - digits.length).toNat = 0 := by omega
      rw [← shape, none]
      rfl
    · simp [Text.ofString, CodePoint.isDigit, CodePoint.ofChar]
    · simp
  · simp [spelled, fractionText, markText, Text.ofString]

/-- The point among the digits. -/
theorem exists_spelled_among {place : Nat} (some : 0 < place) (more : place < digits.length) :
    ∃ n : Numeral, n.Spellable ∧ n.isWhole = false ∧
      signText negative ++ (digits.take place ++ "." ++ digits.drop place) = n.spelled := by
  have behind : digits.drop place ≠ [] := by
    rw [ne_eq, List.drop_eq_nil_iff]
    omega
  refine ⟨⟨negative, digits.take place, digits.drop place, none⟩, ?_, ?_, ?_⟩
  · constructor <;> dsimp only
    · refine ⟨?_, fun c mem => written.decimal c (List.mem_of_mem_take mem)⟩
      rw [ne_eq, List.take_eq_nil_iff, not_or]
      exact ⟨Nat.ne_of_gt some, written.nonempty⟩
    · intro rest same
      have shape : digits = .ofChar '0' :: (rest ++ digits.drop place) := by
        conv_lhs => rw [← List.take_append_drop place digits, same]
        rfl
      obtain ⟨nothing, -⟩ := written.leading _ shape
      exact (List.append_eq_nil_iff.1 nothing).1
    · exact fun c mem => written.decimal c (List.mem_of_mem_drop mem)
    · simp
  · simpa [Numeral.isWhole] using more
  · rw [spelled, fractionText_of_ne_nil behind]
    simp [markText]

/-- One digit before the point, and an exponent. -/
theorem exists_spelled_marked (exponent : Int) :
    ∃ n : Numeral, n.Spellable ∧ n.isWhole = false ∧
      signText negative ++ (digits.take 1 ++
        (if digits.length ≤ 1 then [] else Text.ofString "." ++ digits.drop 1) ++
        exponentText exponent) = n.spelled := by
  refine ⟨⟨negative, digits.take 1, digits.drop 1,
    some (decide (exponent < 0), Text.padded 2 exponent.natAbs)⟩, ?_, ?_, ?_⟩
  · constructor <;> dsimp only
    · refine ⟨?_, fun c mem => written.decimal c (List.mem_of_mem_take mem)⟩
      rw [ne_eq, List.take_eq_nil_iff, not_or]
      exact ⟨by decide, written.nonempty⟩
    · intro rest same
      have one : (digits.take 1).length ≤ 1 := List.length_take_le _ _
      rw [same, List.length_cons] at one
      exact List.eq_nil_of_length_eq_zero (by omega)
    · exact fun c mem => written.decimal c (List.mem_of_mem_drop mem)
    · rintro mark ⟨⟩
      refine ⟨?_, fun c => isDigit_of_mem_padded⟩
      exact List.append_ne_nil_of_right_ne_nil _ (Text.ofNat_ne_nil _)
  · simp [Numeral.isWhole]
  · have fraction : (if digits.length ≤ 1 then [] else Text.ofString "." ++ digits.drop 1) =
        fractionText (digits.drop 1) := by
      split
      next short => rw [List.drop_eq_nil_of_le short]; rfl
      next long =>
        rw [fractionText_of_ne_nil]
        rw [ne_eq, List.drop_eq_nil_iff]
        exact long
    rw [fraction]
    by_cases below : exponent < 0 <;>
      simp [spelled, markText, exponentText, below, Text.ofString]

theorem exists_spelled_layout :
    ∃ n : Numeral, n.Spellable ∧ n.isWhole = false ∧
      signText negative ++ layout digits power = n.spelled := by
  simp only [layout]
  split
  · split
    · exact exists_spelled_below written negative
    split
    next point => exact exists_spelled_above written negative point
    · exact exists_spelled_among written negative (by omega) (by omega)
  · exact exists_spelled_marked written negative _

end

/-- Whether a number is one that notations without words can write. -/
def isFinite : Binary64 → Bool
  | .finite _ _ _ => true
  | _ => false

theorem spellable_zero (negative : Bool) : (⟨negative, "0", "0", none⟩ : Numeral).Spellable := by
  constructor <;> dsimp only
  · exact ⟨by decide, by decide⟩
  · rintro rest ⟨⟩
    rfl
  · decide
  · simp

/-- A finite number is written as a numeral that is not whole. -/
theorem exists_spelled {x : Binary64} (bounded : x.Bounded) (finite : x.isFinite = true) :
    ∃ n : Numeral, n.Spellable ∧ n.isWhole = false ∧ Json.printFloat x = n.spelled := by
  cases x with
  | infinite negative => cases finite
  | nan => cases finite
  | finite negative m q =>
      obtain ⟨small, -, most⟩ := bounded
      rw [Json.printFloat]
      · simp only [display]
        split
        · exact ⟨⟨negative, "0", "0", none⟩, spellable_zero negative, rfl, rfl⟩
        next nonzero =>
          have pos : 0 < m := Nat.pos_of_ne_zero nonzero
          exact exists_spelled_layout (shortest_tidy pos small most).written negative
      · simp
      · simp
      · simp

end Binary64

namespace Json

variable {nested : Option (Scan (Fault Text) Json)}

/-- A finite number that is written is read again as a number. -/
theorem takes_float {x : Binary64} (bounded : x.Bounded) (finite : x.isFinite = true) :
    ∃ y, Takes (scanWith nested) (print (.float x)) (.float y) := by
  obtain ⟨n, spellable, pointed, shape⟩ := Binary64.exists_spelled bounded finite
  refine ⟨n.toBinary64, fun rest ends => ?_⟩
  have scanned := Numeral.scan?_spelled spellable ends
  rw [print, shape, scanWith_of_numeral scanned, scanNumber]
  simp only [scanned, pointed, Bool.not_false, if_true]

end Json

end BlockWire
