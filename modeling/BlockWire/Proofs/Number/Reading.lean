/- # Decimal digits as a whole number

ASCII digits alone, no more than the limit, are read as the number they spell
(`readWhole_ten`): nothing in front of them is a blank, a sign or the mark of a base, and
nothing is left behind them. -/
import BlockWire.Number.Reading

namespace BlockWire

set_option autoImplicit false

theorem CodePoint.bounds_of_isDigit {c : CodePoint} (digit : c.isDigit = true) :
    0x30 ≤ c.val ∧ c.val ≤ 0x39 := by
  simpa only [isDigit, Bool.and_eq_true, decide_eq_true_eq] using digit

theorem Text.plain_of_digits {digits : Text} (decimal : ∀ c ∈ digits, c.isDigit = true) :
    digits.plain = digits := by
  have each : ∀ c ∈ digits, c.plain = id c := by
    intro c mem
    have bounds := CodePoint.bounds_of_isDigit (decimal c mem)
    rw [CodePoint.plain, if_pos (by omega), id]
  rw [Text.plain, List.map_congr_left each, List.map_id]

namespace Numeral

theorem digit?_of_isDigit {c : CodePoint} (digit : c.isDigit = true) :
    Hex.digit? c = some (c.val - 0x30) := by
  rw [Hex.digit?, if_pos (CodePoint.bounds_of_isDigit digit)]

theorem isDigitOf_ten {c : CodePoint} (digit : c.isDigit = true) : isDigitOf 10 c = true := by
  have bounds := CodePoint.bounds_of_isDigit digit
  rw [isDigitOf, digit?_of_isDigit digit, Option.any_some, decide_eq_true_eq]
  omega

theorem skipBlanks_cons {c : CodePoint} {rest : Text} (digit : c.isDigit = true) :
    skipBlanks (c :: rest) = c :: rest := by
  have bounds := CodePoint.bounds_of_isDigit digit
  have noSpace : c ≠ .ofChar ' ' := by
    rintro rfl
    exact absurd digit (by decide)
  have solid : c.isAsciiBlank = false := by
    simp only [CodePoint.isAsciiBlank, Bool.or_eq_false_iff, Bool.and_eq_false_iff,
      decide_eq_false_iff_not]
    exact ⟨noSpace, .inr (by omega)⟩
  rw [skipBlanks, List.dropWhile_cons, solid]
  rfl

theorem scanSign_cons {c : CodePoint} {rest : Text} (digit : c.isDigit = true) :
    scanSign (c :: rest) = (false, c :: rest) := by
  have noSign : c ≠ .ofChar '-' ∧ c ≠ .ofChar '+' := by
    constructor <;>
    · rintro rfl
      exact absurd digit (by decide)
  rw [scanSign, if_neg noSign.1, if_neg noSign.2]

/-- Both ways to value decimal digits agree. -/
theorem valueIn_ten {digits : Text} (decimal : ∀ c ∈ digits, c.isDigit = true) :
    valueIn 10 digits = digits.digitsValue := by
  have same : ∀ start, digits.foldl (fun n c => n * 10 + (Hex.digit? c).getD 0) start =
      digits.foldl (fun n c => n * 10 + (c.val - 0x30)) start := by
    induction digits with
    | nil => exact fun _ => rfl
    | cons c rest ih =>
        intro start
        obtain ⟨here, later⟩ := List.forall_mem_cons.1 decimal
        rw [List.foldl_cons, List.foldl_cons, digit?_of_isDigit here, Option.getD_some, ih later]
  exact same 0

theorem readWhole_ten {digits : Text} (nonempty : digits ≠ [])
    (decimal : ∀ c ∈ digits, c.isDigit = true) (short : digits.length ≤ Text.digitLimit) :
    readWhole 10 digits = .ok digits.digitsValue := by
  obtain ⟨c, rest, rfl⟩ := List.exists_cons_of_ne_nil nonempty
  have first := decimal c List.mem_cons_self
  have unsigned : scanSign (skipBlanks (Text.plain (c :: rest))) = (false, c :: rest) := by
    rw [Text.plain_of_digits decimal, skipBlanks_cons first, scanSign_cons first]
  have unmarked : skipMark 10 (c :: rest) = c :: rest := rfl
  have all : (c :: rest).takeWhile (isDigitOf 10) = c :: rest := by
    rw [← List.append_nil (c :: rest),
      List.takeWhile_append_of_pos fun d mem => isDigitOf_ten (decimal d mem)]
    rfl
  have behind : skipBlanks ((c :: rest).drop (c :: rest).length) = [] := by
    rw [List.drop_length]
    rfl
  have within : ¬ (True ∧ Text.digitLimit < (c :: rest).length) := by
    rintro ⟨-, long⟩
    exact absurd short (Nat.not_le.2 long)
  rw [readWhole]
  simp only [unsigned, unmarked, all, behind, within, if_false, valueIn_ten decimal,
    List.isEmpty_cons, List.isEmpty_nil, Bool.not_true, Bool.or_self, Bool.false_eq_true, signed]

end Numeral

end BlockWire
