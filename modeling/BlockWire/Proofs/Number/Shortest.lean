/- # Shortest digits are no zeros

A positive value is shown with digits that are not zero, unless they stand for a power of ten
up to one (`shortest_tidy`), so that no digits begin with a zero before the point.

On a grid, zero rounds to no positive value (`onGrid?_ne_zero`). Where no grid was found, the
value's floor on a grid of seventeen digits more than it has stands in: the value is at least
as great as a unit there (`grid_le_of_magnitude`), because the estimate of its magnitude is at
most one too high. -/
import BlockWire.Proofs.Number.Rounding

namespace BlockWire.Binary64

set_option autoImplicit false

variable {m : Nat} {q : Int}

/-- Digits that are not zero, or that count a power of ten up to one. -/
def Tidy (found : Nat × Int) : Prop := found.1 ≠ 0 ∨ found.2 ≤ 0

theorem grids_pos (q s : Int) : 0 < (grids q s).1 ∧ 0 < (grids q s).2 := by
  constructor <;> exact Nat.mul_pos (Nat.pow_pos (by decide)) (Nat.pow_pos (by decide))

/-! ## On a grid -/

theorem roundsTo_zero (pos : 0 < m) (q s : Int) : roundsTo m q 0 s = false := by
  have unit := (grids_pos q s).2
  have low : 0 < (4 * m - if m = leastNormal ∧ -1074 < q then 1 else 2) * (grids q s).2 := by
    apply Nat.mul_pos _ unit
    split <;> omega
  simp only [roundsTo, Nat.zero_mul]
  split
  · rw [decide_eq_false (Nat.not_le.2 low), Bool.false_and]
  · rw [decide_eq_false (Nat.not_lt.2 (Nat.zero_le _)), Bool.false_and]

theorem onGrid?_ne_zero (pos : 0 < m) {s : Int} {d : Nat} (found : onGrid? m q s = some d) :
    d ≠ 0 := by
  have positive : ∀ e, roundsTo m q e s = true → e ≠ 0 := by
    rintro e rounds rfl
    rw [roundsTo_zero pos] at rounds
    cases rounds
  simp only [onGrid?] at found
  split at found
  next below _ =>
    have nonzero := positive _ below
    split at found
    · obtain rfl := Option.some.inj found
      exact nonzero
    split at found
    · obtain rfl := Option.some.inj found
      exact Nat.succ_ne_zero _
    · obtain rfl := Option.some.inj found
      exact Nat.ne_of_gt (Nat.add_pos_left (Nat.pos_of_ne_zero nonzero) _)
  next below _ =>
    obtain rfl := Option.some.inj found
    exact positive _ below
  next _ above =>
    obtain rfl := Option.some.inj found
    exact Nat.succ_ne_zero _
  · cases found

/-! ## The magnitude -/

/-- Three digits take more than nine bits. -/
theorem pow_ten_le_pow_two {k n : Nat} (few : 10 * k ≤ 3 * n) : 10 ^ k ≤ 2 ^ n := by
  have cubes : (10 ^ k) ^ 3 ≤ (2 ^ n) ^ 3 := by
    calc (10 ^ k) ^ 3 = (10 ^ 3) ^ k := by rw [← Nat.pow_mul, ← Nat.pow_mul, Nat.mul_comm]
      _ ≤ (2 ^ 10) ^ k := Nat.pow_le_pow_left (by decide) k
      _ = 2 ^ (10 * k) := (Nat.pow_mul 2 10 k).symm
      _ ≤ 2 ^ (n * 3) := Nat.pow_le_pow_right (by decide) (by omega)
      _ = (2 ^ n) ^ 3 := Nat.pow_mul 2 n 3
  exact (Nat.pow_le_pow_iff_left (by decide)).1 cubes

/-- A power of ten is no greater than a value with enough binary digits. -/
theorem grid_le_of_length (pos : 0 < m) {s : Int} (whole : 0 ≤ s)
    (length : 10 * s ≤ 3 * ((m.log2 : Int) + q)) :
    (grids q s).1 ≤ 4 * m * (grids q s).2 := by
  have below : 2 ^ m.log2 ≤ m := Nat.log2_self_le (Nat.ne_of_gt pos)
  have noFraction : (-s).toNat = 0 := by omega
  change 10 ^ s.toNat * 2 ^ (2 - q).toNat ≤ 4 * m * (2 ^ (q - 2).toNat * 10 ^ (-s).toNat)
  rw [noFraction, Nat.pow_zero, Nat.mul_one]
  calc 10 ^ s.toNat * 2 ^ (2 - q).toNat
      ≤ 2 ^ ((m.log2 : Int) + q).toNat * 2 ^ (2 - q).toNat :=
        Nat.mul_le_mul_right _ (pow_ten_le_pow_two (by omega))
    _ = 2 ^ 2 * 2 ^ m.log2 * 2 ^ (q - 2).toNat := by
        rw [← Nat.pow_add, ← Nat.pow_add, ← Nat.pow_add]
        congr 1
        omega
    _ ≤ 4 * m * 2 ^ (q - 2).toNat := Nat.mul_le_mul_right _ (Nat.mul_le_mul_left 4 below)

/-- On a coarser grid the unit is greater. -/
theorem grid_le_of_le {s t : Int} (whole : 0 ≤ s) (le : s ≤ t)
    (coarse : (grids q t).1 ≤ 4 * m * (grids q t).2) :
    (grids q s).1 ≤ 4 * m * (grids q s).2 := by
  have same : (grids q s).2 = (grids q t).2 := by
    have noFraction : (-s).toNat = 0 ∧ (-t).toNat = 0 := by omega
    simp only [grids, noFraction]
  have finer : (grids q s).1 ≤ (grids q t).1 :=
    Nat.mul_le_mul_right _ (Nat.pow_le_pow_right (by decide) (by omega))
  rw [same]
  exact Nat.le_trans finer coarse

/-- With seventeen digits more than its magnitude says a value reaches the unit. -/
theorem grid_le_of_magnitude (pos : 0 < m) (small : m < mantissaBound) (most : q ≤ 971) {s : Int}
    (whole : 0 < s) (digits : s + 18 ≤ magnitude m q) :
    (grids q s).1 ≤ 4 * m * (grids q s).2 := by
  have length : m.log2 < 53 := (Nat.log2_lt (Nat.ne_of_gt pos)).2 small
  simp only [magnitude] at digits
  split at digits
  · exact grid_le_of_length pos (by omega) (by omega)
  next reaches =>
    split at digits
    · exact grid_le_of_le (by omega) (by omega) (Nat.not_lt.1 reaches)
    next reaches =>
      split at digits
      · exact grid_le_of_le (by omega) (by omega) (Nat.not_lt.1 reaches)
      next reaches => exact grid_le_of_le (by omega) (by omega) (Nat.not_lt.1 reaches)

/-! ## The digits that are found -/

theorem searchGrids_tidy (pos : 0 < m) {top : Int} {more digits : Nat}
    (reaches : ∀ s : Int, 0 < s → s = top - (digits + more : Nat) →
      (grids q s).1 ≤ 4 * m * (grids q s).2) :
    Tidy (searchGrids m q top more digits) := by
  induction more generalizing digits with
  | zero =>
      by_cases whole : 0 < top - (digits : Int)
      · left
        apply Nat.ne_of_gt
        exact Nat.div_pos (reaches _ whole rfl) (grids_pos q _).1
      · exact .inr (Int.not_lt.1 whole)
  | succ more ih =>
      rw [searchGrids]
      split
      next d found => exact .inl (onGrid?_ne_zero pos found)
      · apply ih
        intro s whole same
        exact reaches s whole (by omega)

theorem trim_tidy {fuel d : Nat} {s : Int} (tidy : Tidy (d, s)) : Tidy (trim fuel d s) := by
  induction fuel generalizing d s with
  | zero => exact tidy
  | succ fuel ih =>
      rw [trim]
      split
      next zeros =>
        apply ih
        left
        simp only
        omega
      · exact tidy

theorem shortest_tidy (pos : 0 < m) (small : m < mantissaBound) (most : q ≤ 971) :
    Tidy (shortest m q) := by
  rw [shortest]
  apply trim_tidy
  apply searchGrids_tidy pos
  intro s whole same
  exact grid_le_of_magnitude pos small most whole (by omega)

end BlockWire.Binary64
