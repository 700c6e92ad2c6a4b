/- # The bounds of rounded values

Whatever is rounded has a mantissa below `2 ^ 53` and an exponent from the least one to the
greatest, or is infinite (`bounded_ofDecimal`). The exponent is chosen from binary lengths
alone, which give the quotient's own length but for one bit. One step up settles that bit
(`quotient_lt`), so rounding can pass the bound by one at most, and carrying puts that
right. -/
import BlockWire.Number.Numeral
import Mathlib.Algebra.Group.Nat.Defs

namespace BlockWire

set_option autoImplicit false

namespace Binary64

/-- What mantissa and exponent of a finite value are between. -/
def Bounded : Binary64 → Prop
  | .finite _ m q => m < mantissaBound ∧ -1074 ≤ q ∧ q ≤ 971
  | _ => True

theorem bounded_zero (negative : Bool) : (zero negative).Bounded :=
  ⟨by decide, by decide, by decide⟩

theorem roundHalfEven_le (num den : Nat) : roundHalfEven num den ≤ num / den + 1 := by
  simp only [roundHalfEven]
  split
  · omega
  split
  · omega
  · omega

/-- What is left of a quotient by its binary lengths. -/
theorem quotient_lt {num den bits : Nat} {q : Int} (pos : den ≠ 0)
    (length : (num.log2 : Int) - den.log2 + 1 ≤ q + bits) :
    (scale num den q).1 / (scale num den q).2 < 2 ^ bits := by
  have above : num < 2 ^ (num.log2 + 1) := Nat.lt_log2_self
  have below : 2 ^ den.log2 ≤ den := Nat.log2_self_le pos
  apply Nat.div_lt_of_lt_mul
  change num * 2 ^ (-q).toNat < den * 2 ^ q.toNat * 2 ^ bits
  calc num * 2 ^ (-q).toNat
      < 2 ^ (num.log2 + 1) * 2 ^ (-q).toNat :=
        Nat.mul_lt_mul_of_pos_right above (Nat.pow_pos (by decide))
    _ = 2 ^ (num.log2 + 1 + (-q).toNat) := (Nat.pow_add _ _ _).symm
    _ ≤ 2 ^ (den.log2 + q.toNat + bits) := Nat.pow_le_pow_right (by decide) (by omega)
    _ = 2 ^ den.log2 * 2 ^ q.toNat * 2 ^ bits := by rw [Nat.pow_add, Nat.pow_add]
    _ ≤ den * 2 ^ q.toNat * 2 ^ bits :=
        Nat.mul_le_mul_right _ (Nat.mul_le_mul_right _ below)

theorem exponentOf_ge (num den : Nat) : -1074 ≤ exponentOf num den := by
  simp only [exponentOf]
  split <;> omega

/-- At the exponent that is chosen the quotient has no more than 53 bits. -/
theorem quotient_exponentOf_lt (num : Nat) {den : Nat} (pos : den ≠ 0) :
    (scale num den (exponentOf num den)).1 / (scale num den (exponentOf num den)).2 <
      mantissaBound := by
  simp only [exponentOf]
  split
  next small => exact small
  · -- The lengths leave one bit open, which the next exponent takes.
    have bits : (num.log2 : Int) - den.log2 + 1 ≤
        max (-1074) ((num.log2 : Int) - den.log2 - 53) + 1 + (53 : Nat) := by omega
    exact quotient_lt pos bits

theorem bounded_ofRatio (negative : Bool) {num den : Nat} (pos : den ≠ 0) :
    (ofRatio negative num den).Bounded := by
  have least := exponentOf_ge num den
  have quotient := quotient_exponentOf_lt num pos
  have rounded := roundHalfEven_le (scale num den (exponentOf num den)).1
    (scale num den (exponentOf num den)).2
  have normal : leastNormal < mantissaBound := by decide
  simp only [ofRatio]
  split
  · exact bounded_zero negative
  split
  next carried =>
    split
    · exact trivial
    next inRange =>
      simp only [Bounded] at inRange ⊢
      exact ⟨normal, by omega, by omega⟩
  next small =>
    split
    · exact trivial
    next inRange =>
      simp only [Bounded] at inRange ⊢
      exact ⟨by omega, by omega, by omega⟩

theorem bounded_ofDecimal (negative : Bool) (digits : Nat) (exponent : Int) :
    (ofDecimal negative digits exponent).Bounded := by
  unfold ofDecimal
  split
  · exact bounded_zero negative
  split
  · split
    · exact trivial
    · exact bounded_ofRatio negative (by decide)
  split
  · exact bounded_zero negative
  · apply bounded_ofRatio
    exact Nat.ne_of_gt (Nat.pow_pos (by decide))

end Binary64

theorem Numeral.bounded_toBinary64 (n : Numeral) : n.toBinary64.Bounded :=
  Binary64.bounded_ofDecimal _ _ _

end BlockWire
