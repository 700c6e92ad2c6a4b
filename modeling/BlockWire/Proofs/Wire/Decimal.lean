/- # Which strings are numbers in range

A number is a string of decimal digits whose value is below the bound of its type
(`uintFromJson_eq_ok`). Reading drops leading zeros and counts what is left before it
looks at the value. The count refuses nothing in range: digits that do not begin with
a zero are worth at least a power of ten of their number (`pow_le_digitsValue`), and
the greatest number of the type has fewer digits.

Whatever turns digits into a number is therefore asked about few of them. The reading is
made once more with that conversion left open (`uintWith`): one that is right about 78
digits serves every type of up to 256 bits (`uintWith_eq`), whatever it does with more. -/
import BlockWire.Wire.Shape
import BlockWire.Proofs.Outcome

namespace BlockWire

set_option autoImplicit false

namespace Text

theorem foldl_digits (digits : Text) (start : Nat) :
    start * Nat.pow 10 digits.length ≤
      digits.foldl (fun n c => n * 10 + (c.val - 0x30)) start := by
  induction digits generalizing start with
  | nil => simp
  | cons c rest ih =>
      calc start * Nat.pow 10 (c :: rest).length
          = start * (Nat.pow 10 rest.length * 10) := rfl
        _ = start * 10 * Nat.pow 10 rest.length := by rw [Nat.mul_comm _ 10, Nat.mul_assoc]
        _ ≤ (start * 10 + (c.val - 0x30)) * Nat.pow 10 rest.length :=
            Nat.mul_le_mul_right _ (Nat.le_add_right _ _)
        _ ≤ _ := ih _

/-- Digits that begin with another digit than zero are worth a power of ten. -/
theorem pow_le_digitsValue {c : CodePoint} {rest : Text} (digit : c.isDigit = true)
    (nonzero : c ≠ .ofChar '0') : Nat.pow 10 rest.length ≤ digitsValue (c :: rest) := by
  have low : 0x30 ≤ c.val := by
    simp only [CodePoint.isDigit, Bool.and_eq_true, decide_eq_true_eq] at digit
    exact digit.1
  have other : c.val ≠ 0x30 := fun same => nonzero (CodePoint.val_injective same)
  calc Nat.pow 10 rest.length
      = 1 * Nat.pow 10 rest.length := (Nat.one_mul _).symm
    _ ≤ (0 * 10 + (c.val - 0x30)) * Nat.pow 10 rest.length :=
        Nat.mul_le_mul_right _ (by omega)
    _ ≤ digitsValue (c :: rest) := foldl_digits rest _

/-- Leading zeros are worth nothing. -/
theorem digitsValue_dropWhile_zero (digits : Text) :
    digitsValue (digits.dropWhile (· == .ofChar '0')) = digitsValue digits := by
  induction digits with
  | nil => rfl
  | cons c rest ih =>
      rw [List.dropWhile_cons]
      split
      next zero =>
        rw [ih, eq_of_beq zero]
        rfl
      · rfl

theorem digitsValue_replicate_zero (zeros : Nat) (digits : Text) :
    digitsValue (List.replicate zeros (.ofChar '0') ++ digits) = digitsValue digits := by
  induction zeros with
  | zero => rfl
  | succ zeros ih => exact ih

end Text

namespace Wire

theorem isDecimal_iff {t : Text} :
    isDecimal t = true ↔ t ≠ [] ∧ ∀ c ∈ t, c.isDigit = true := by
  simp [isDecimal]

/-- What is left of digits without leading zeros: a zero alone, or digits that begin
with another one. -/
theorem significant_cases (digits : Text) (decimal : ∀ c ∈ digits, c.isDigit = true) :
    significant digits = "0" ∨
      ∃ c rest, significant digits = c :: rest ∧ c.isDigit = true ∧ c ≠ .ofChar '0' := by
  cases shape : digits.dropWhile (· == .ofChar '0') with
  | nil => exact .inl (by rw [significant, shape])
  | cons c rest =>
      refine .inr ⟨c, rest, by rw [significant, shape], decimal c ?_, ?_⟩
      · exact (List.dropWhile_suffix _).subset (shape ▸ List.mem_cons_self)
      · have first := List.head?_dropWhile_not (· == CodePoint.ofChar '0') digits
        simpa [shape] using first

theorem digitsValue_significant (digits : Text) :
    (significant digits).digitsValue = digits.digitsValue := by
  rw [← Text.digitsValue_dropWhile_zero digits]
  unfold significant
  split
  next none_left =>
    rw [none_left]
    rfl
  · rfl

/-- Digits stay digits without their leading zeros. -/
theorem isDecimal_significant {t : Text} (decimal : isDecimal t = true) :
    isDecimal (significant t) = true := by
  obtain ⟨-, digits⟩ := isDecimal_iff.1 decimal
  apply isDecimal_iff.2
  unfold significant
  split
  · exact ⟨by decide, by decide⟩
  next rest someLeft =>
    constructor
    · intro nothing
      exact someLeft nothing
    · intro c mem
      apply digits
      exact (List.dropWhile_sublist _).subset mem

/-- Too many digits are out of range. -/
theorem le_digitsValue_of_digitBound_lt {bits : Nat} {digits : Text}
    (decimal : ∀ c ∈ digits, c.isDigit = true)
    (many : digitBound bits < (significant digits).length) :
    Nat.pow 2 bits ≤ digits.digitsValue := by
  have someDigit : 0 < digitBound bits := List.length_pos_iff.2 (Text.ofNat_ne_nil _)
  have greatest : Nat.pow 2 bits - 1 < Nat.pow 10 (digitBound bits) :=
    (Text.length_ofNat_le_iff someDigit).1 (Nat.le_refl _)
  rcases significant_cases digits decimal with zero | ⟨c, rest, shape, digit, nonzero⟩
  · rw [zero] at many
    simp only [Text.ofString] at many
    exact absurd many (by simp; omega)
  · rw [shape, List.length_cons] at many
    have size : Nat.pow 10 (digitBound bits) ≤ Nat.pow 10 rest.length :=
      Nat.pow_le_pow_right (by omega) (by omega)
    have worth : Nat.pow 10 rest.length ≤ Text.digitsValue (c :: rest) :=
      Text.pow_le_digitsValue digit nonzero
    rw [← shape, digitsValue_significant] at worth
    omega

theorem uintFromJson_eq_ok {bits n : Nat} {j : Json} :
    uintFromJson bits j = .ok n ↔
      ∃ digits, j = .str digits ∧ digits ≠ [] ∧ (∀ c ∈ digits, c.isDigit = true) ∧
        digits.digitsValue < Nat.pow 2 bits ∧ n = digits.digitsValue := by
  cases j with
  | str t =>
      by_cases decimal : isDecimal t = true
      · obtain ⟨nonempty, digits⟩ := isDecimal_iff.1 decimal
        simp only [uintFromJson, if_pos decimal, guard_eq_ok, digitsValue_significant,
          Nat.not_le, Except.ok.injEq]
        constructor
        · rintro ⟨_, inRange, rfl⟩
          exact ⟨t, rfl, nonempty, digits, inRange, rfl⟩
        · rintro ⟨_, same, _, _, inRange, rfl⟩
          cases same
          refine ⟨fun many => ?_, inRange, rfl⟩
          exact absurd (le_digitsValue_of_digitBound_lt digits many) (Nat.not_le.2 inRange)
      · simp only [uintFromJson, if_neg decimal, reduceCtorEq, false_iff, not_exists]
        rintro digits ⟨same, nonempty, all, _⟩
        cases same
        exact decimal (isDecimal_iff.2 ⟨nonempty, all⟩)
  | _ => simp [uintFromJson]

theorem uintFromJson_zeros_ofNat {bits n : Nat} (inRange : n < Nat.pow 2 bits) (zeros : Nat) :
    uintFromJson bits (.str (List.replicate zeros (.ofChar '0') ++ Text.ofNat n)) = .ok n := by
  apply uintFromJson_eq_ok.2
  have value : Text.digitsValue (List.replicate zeros (.ofChar '0') ++ Text.ofNat n) = n := by
    rw [Text.digitsValue_replicate_zero, Text.digitsValue_ofNat]
  refine ⟨_, rfl, ?_, ?_, by rwa [value], value.symm⟩
  · intro nothing
    exact Text.ofNat_ne_nil n (List.append_eq_nil_iff.1 nothing).2
  · intro c mem
    rcases List.mem_append.1 mem with zero | digit
    · rw [List.eq_of_mem_replicate zero]
      rfl
    · exact Text.isDigit_of_mem_ofNat digit

/-! ## The digits that are converted -/

/-- The reading with the conversion of digits left open. -/
def uintWith (convert : Text → Except Refusal Nat) (bits : Nat) : Json → Except Refusal Nat
  | .str t =>
      if isDecimal t then
        let digits := significant t
        if digitBound bits < digits.length then
          .error (.invalid (.tooManyDigits digits.length (Ty.uint bits).name))
        else do
          let n ← convert digits
          if Nat.pow 2 bits ≤ n then .error (.invalid (.outOfRange digits (Ty.uint bits).name))
          else .ok n
      else .error (.invalid (.notDecimal (.str t)))
  | j => .error (.invalid (.notDecimal j))

theorem digitBound_le {bits : Nat} (narrow : bits ≤ 256) : digitBound bits ≤ 78 := by
  apply (Text.length_ofNat_le_iff (by decide)).2
  calc Nat.pow 2 bits - 1
      < Nat.pow 2 bits := Nat.sub_lt (Nat.pow_pos (by decide)) (by decide)
    _ ≤ Nat.pow 2 256 := Nat.pow_le_pow_right (by decide) narrow
    _ ≤ Nat.pow 10 78 := by decide

/-- A conversion is not asked about more digits than the greatest number of the type has. -/
theorem uintWith_eq {convert : Text → Except Refusal Nat} {bits : Nat}
    (right : ∀ digits, isDecimal digits = true → digits.length ≤ digitBound bits →
      convert digits = .ok digits.digitsValue) (j : Json) :
    uintWith convert bits j = uintFromJson bits j := by
  cases j with
  | str t =>
      rw [uintWith, uintFromJson]
      refine ite_congr rfl (fun decimal => ?_) fun _ => rfl
      refine ite_congr rfl (fun _ => rfl) fun few => ?_
      rw [right _ (isDecimal_significant decimal) (Nat.not_lt.1 few)]
      rfl
  | _ => rfl

/-- What is read are the numbers in range, however many zeros stand in front of their digits.
Counting the digits refuses none of them, and of a type of up to 256 bits it keeps more than 78
digits from every conversion. A number that is written is read again. -/
theorem uintFromJson_exact (bits : Nat) :
    (∀ j n, uintFromJson bits j = .ok n ↔
      ∃ digits, j = .str digits ∧ digits ≠ [] ∧ (∀ c ∈ digits, c.isDigit = true) ∧
        digits.digitsValue < Nat.pow 2 bits ∧ n = digits.digitsValue) ∧
    (∀ digits, (∀ c ∈ digits, c.isDigit = true) → digits.digitsValue < Nat.pow 2 bits →
      (significant digits).length ≤ digitBound bits) ∧
    (bits ≤ 256 → ∀ convert : Text → Except Refusal Nat,
      (∀ digits, isDecimal digits = true → digits.length ≤ 78 →
        convert digits = .ok digits.digitsValue) →
      ∀ j, uintWith convert bits j = uintFromJson bits j) ∧
    ∀ n, n < Nat.pow 2 bits →
      uintFromJson bits (toJson (.uint n)) = .ok n ∧
      ∀ zeros, uintFromJson bits
        (.str (List.replicate zeros (.ofChar '0') ++ Text.ofNat n)) = .ok n := by
  refine ⟨fun j n => uintFromJson_eq_ok, ?_, ?_, ?_⟩
  · intro digits decimal inRange
    apply Nat.not_lt.1
    intro many
    exact Nat.not_le.2 inRange (le_digitsValue_of_digitBound_lt decimal many)
  · intro narrow convert right
    apply uintWith_eq
    intro digits decimal few
    exact right digits decimal (Nat.le_trans few (digitBound_le narrow))
  · intro n inRange
    have read := uintFromJson_zeros_ofNat inRange
    exact ⟨read 0, read⟩

/-- The greatest number of a byte behind two zeros. -/
theorem uintFromJson_byte_max :
    uintFromJson 8 (.str "00255") = .ok 255 ∧ ∀ n, uintFromJson 8 (.str "256") ≠ .ok n := by
  obtain ⟨accepted, -, -, -⟩ := uintFromJson_exact 8
  constructor
  · exact (accepted _ _).2 ⟨_, rfl, by decide, by decide, by decide, by decide⟩
  · intro n read
    obtain ⟨digits, same, -, -, inRange, -⟩ := (accepted _ _).1 read
    cases same
    exact absurd inRange (by decide)

end Wire

end BlockWire
