/- # Where a numeral ends

A numeral is read as far as it goes, so what it is depends on the text behind it only
through the code points that could go on with it. Each part (whole digits, fraction,
exponent) is shown to take the same text before anything that does not continue it;
`scan?_local` puts the parts together.

In the other direction, a numeral is read back from its parts one behind the other
(`scan?_spelled`), as long as it does not begin with a needless zero. A whole number is
written so (`scan?_ofInt`). -/
import BlockWire.Proofs.Json.Token

namespace BlockWire

set_option autoImplicit false

open Json (Stops Ends Token stops_cons)

namespace Numeral

/-- The code points a numeral is made of. -/
def isPart (c : CodePoint) : Bool :=
  c.isDigit || c = '-' || c = '+' || c = '.' || c = 'e' || c = 'E'

theorem isPart_of_isDigit {c : CodePoint} (digit : c.isDigit = true) : isPart c = true := by
  simp [isPart, digit]

theorem bounds_of_isPart {c : CodePoint} (part : isPart c = true) :
    0x20 < c.val ∧ c.val < 0x80 := by
  simp only [isPart, CodePoint.isDigit, Bool.or_eq_true, Bool.and_eq_true, decide_eq_true_eq]
    at part
  rcases part with ((((digit | rfl) | rfl) | rfl) | rfl) | rfl
  · omega
  all_goals decide

theorem not_isBlank_of_isPart {c : CodePoint} (part : isPart c = true) :
    Json.isBlank c = false := by
  have bounds := bounds_of_isPart part
  apply Decidable.by_contra
  intro blank
  rw [Bool.not_eq_false] at blank
  simp only [Json.isBlank, Bool.or_eq_true, decide_eq_true_eq] at blank
  rcases blank with ((rfl | rfl) | rfl) | rfl <;> simp [CodePoint.ofChar] at bounds

theorem token_of_parts {s : Text} (nonempty : s ≠ []) (parts : ∀ c ∈ s, isPart c = true) :
    Token s where
  noZero c mem := by
    have bounds := bounds_of_isPart (parts c mem)
    omega
  starts := by
    obtain ⟨c, rest, rfl⟩ := List.exists_cons_of_ne_nil nonempty
    have part := parts c List.mem_cons_self
    exact ⟨c, rest, rfl, not_isBlank_of_isPart part, (bounds_of_isPart part).2⟩
  stops := by
    refine ⟨s.getLast nonempty, List.getLast?_eq_some_getLast nonempty, ?_⟩
    exact not_isBlank_of_isPart (parts _ (List.getLast_mem nonempty))

/-! ## The parts -/

/-- `s` is empty or begins with one of the code points that `p` leaves out, so it
stops whatever it stands before. -/
def Opens (marks : List CodePoint) (s : Text) : Prop := ∀ c ∈ s.head?, c ∈ marks

theorem Opens.stops {marks : List CodePoint} {s rest : Text} {p : CodePoint → Bool}
    (opens : Opens marks s) (unmarked : ∀ c ∈ marks, p c = false) (stops : Stops p rest) :
    Stops p (s ++ rest) := by
  cases s with
  | nil => exact stops
  | cons c s => exact stops_cons.2 (unmarked c (opens c rfl))

theorem head_digits {digits rest : Text} (nonempty : digits ≠ [])
    (all : ∀ c ∈ digits, c.isDigit = true) :
    ∀ c ∈ (digits ++ rest).head?, c.isDigit = true := by
  obtain ⟨c, more, rfl⟩ := List.exists_cons_of_ne_nil nonempty
  simpa using all c List.mem_cons_self

theorem scanWhole?_local {t whole left : Text} (scanned : scanWhole? t = some (whole, left)) :
    t = whole ++ left ∧ whole ≠ [] ∧ (∀ c ∈ whole, c.isDigit = true) ∧
      ∀ rest, Stops CodePoint.isDigit rest → scanWhole? (whole ++ rest) = some (whole, rest) := by
  cases t with
  | nil => simp [scanWhole?] at scanned
  | cons c t =>
      simp only [scanWhole?] at scanned
      split at scanned
      next zero =>
        obtain ⟨rfl, rfl⟩ := Prod.mk.inj (Option.some.inj scanned)
        refine ⟨rfl, by simp, ?_, fun rest _ => by simp [scanWhole?, zero]⟩
        rw [List.forall_mem_singleton, zero]
        decide
      next nonzero =>
        split at scanned
        next digit =>
          obtain ⟨rfl, rfl⟩ := Prod.mk.inj (Option.some.inj scanned)
          have digits : ∀ d ∈ Text.leadingDigits (c :: t), d.isDigit = true := fun d mem =>
            List.all_eq_true.1 List.all_takeWhile d mem
          have shape : Text.leadingDigits (c :: t) = c :: Text.leadingDigits t := by
            simp [Text.leadingDigits, digit]
          refine ⟨List.takeWhile_append_dropWhile.symm, by simp [shape], digits, ?_⟩
          intro rest stops
          have taken : Text.leadingDigits (Text.leadingDigits (c :: t) ++ rest) =
              Text.leadingDigits (c :: t) := Json.takeWhile_append_of_stops digits stops
          have left := Json.dropWhile_append_of_stops digits stops
          rw [shape, List.cons_append] at taken left ⊢
          simp only [scanWhole?, if_neg nonzero, if_pos digit, taken, left]
        · simp at scanned

theorem scanFraction_of_stops {rest : Text} (stops : Stops (fun c => c.isDigit || c = '.') rest) :
    scanFraction rest = ([], rest) := by
  cases rest with
  | nil => rfl
  | cons c rest =>
      have other := stops_cons.1 stops
      simp only [Bool.or_eq_false_iff, decide_eq_false_iff_not] at other
      simp [scanFraction, other.2]

theorem scanExponent_of_ends {rest : Text} (ends : Ends rest) :
    scanExponent rest = (none, rest) := by
  cases rest with
  | nil => rfl
  | cons c rest =>
      have other := stops_cons.1 ends
      simp only [Json.continuesNumeral, Bool.or_eq_false_iff, decide_eq_false_iff_not] at other
      simp [scanExponent, other.1.2, other.2]

theorem scanFraction_local {t fraction left : Text} (scanned : scanFraction t = (fraction, left)) :
    ∃ s, t = s ++ left ∧ Opens ['.'] s ∧ (∀ c ∈ s, isPart c = true) ∧
      ∀ rest, Stops (fun c => c.isDigit || c = '.') rest →
        scanFraction (s ++ rest) = (fraction, rest) := by
  cases t with
  | nil =>
      obtain ⟨rfl, rfl⟩ := Prod.mk.inj scanned
      exact ⟨[], rfl, by simp [Opens], by simp, fun _ stops => scanFraction_of_stops stops⟩
  | cons c t =>
      simp only [scanFraction] at scanned
      split at scanned
      next pointed =>
        obtain ⟨rfl, rfl⟩ := Prod.mk.inj scanned
        have digits : ∀ d ∈ Text.leadingDigits t, d.isDigit = true := fun d mem =>
          List.all_eq_true.1 List.all_takeWhile d mem
        refine ⟨c :: Text.leadingDigits t, ?_, by simp [Opens, pointed.1], ?_, ?_⟩
        · exact congrArg (c :: ·) List.takeWhile_append_dropWhile.symm
        · rw [List.forall_mem_cons]
          refine ⟨by rw [pointed.1]; decide, fun d mem => isPart_of_isDigit (digits d mem)⟩
        · intro rest stops
          have noDigit : Stops CodePoint.isDigit rest := fun d first => by
            have other := stops d first
            simp only [Bool.or_eq_false_iff] at other
            exact other.1
          have taken : Text.leadingDigits (Text.leadingDigits t ++ rest) =
              Text.leadingDigits t := Json.takeWhile_append_of_stops digits noDigit
          have left := Json.dropWhile_append_of_stops digits noDigit
          simp only [List.cons_append, scanFraction, taken, left]
          rw [if_pos pointed]
      next =>
        obtain ⟨rfl, rfl⟩ := Prod.mk.inj scanned
        exact ⟨[], rfl, by simp [Opens], by simp, fun _ stops => scanFraction_of_stops stops⟩

theorem scanSign_parts (t : Text) :
    ∃ sign, t = sign ++ (scanSign t).2 ∧ (∀ c ∈ sign, isPart c = true) ∧
      ∀ rest, (∀ c ∈ rest.head?, c.isDigit = true) →
        scanSign (sign ++ rest) = ((scanSign t).1, rest) := by
  have unsigned (rest : Text) (digit : ∀ c ∈ rest.head?, c.isDigit = true) :
      scanSign rest = (false, rest) := by
    cases rest with
    | nil => rfl
    | cons c rest =>
        have isDigit := digit c rfl
        have noMinus : c ≠ '-' := by rintro rfl; revert isDigit; decide
        have noPlus : c ≠ '+' := by rintro rfl; revert isDigit; decide
        simp [scanSign, noMinus, noPlus]
  cases t with
  | nil => exact ⟨[], rfl, by simp, fun rest digit => unsigned rest digit⟩
  | cons c t =>
      by_cases minus : c = '-'
      · subst minus
        exact ⟨['-'], by simp [scanSign], by decide, fun rest _ => by simp [scanSign]⟩
      · by_cases plus : c = '+'
        · subst plus
          refine ⟨['+'], by simp [scanSign, minus], by decide, fun rest _ => ?_⟩
          simp [scanSign, minus]
        · refine ⟨[], by simp [scanSign, minus, plus], by simp, fun rest digit => ?_⟩
          rw [List.nil_append, unsigned rest digit]
          simp [scanSign, minus, plus]

theorem scanExponent_local {t left : Text} {exponent : Option (Bool × Text)}
    (scanned : scanExponent t = (exponent, left)) :
    ∃ s, t = s ++ left ∧ Opens ['e', 'E'] s ∧ (∀ c ∈ s, isPart c = true) ∧
      ∀ rest, Ends rest → scanExponent (s ++ rest) = (exponent, rest) := by
  cases t with
  | nil =>
      obtain ⟨rfl, rfl⟩ := Prod.mk.inj scanned
      exact ⟨[], rfl, by simp [Opens], by simp, fun _ ends => scanExponent_of_ends ends⟩
  | cons c t =>
      simp only [scanExponent] at scanned
      split at scanned
      next marked =>
        obtain ⟨rfl, rfl⟩ := Prod.mk.inj scanned
        obtain ⟨sign, signed, parts, same⟩ := scanSign_parts t
        generalize scanSign t = read at *
        obtain ⟨negative, behind⟩ := read
        have digits : ∀ d ∈ Text.leadingDigits behind, d.isDigit = true := fun d mem =>
          List.all_eq_true.1 List.all_takeWhile d mem
        refine ⟨c :: (sign ++ Text.leadingDigits behind), ?_, ?_, ?_, ?_⟩
        · rw [List.cons_append, List.append_assoc]
          rw [show Text.leadingDigits behind ++ behind.dropWhile CodePoint.isDigit = behind from
            List.takeWhile_append_dropWhile]
          exact congrArg (c :: ·) signed
        · rcases marked.1 with rfl | rfl <;> simp [Opens]
        · rw [List.forall_mem_cons]
          refine ⟨by rcases marked.1 with rfl | rfl <;> decide, fun d mem => ?_⟩
          rcases List.mem_append.1 mem with inSign | inDigits
          · exact parts d inSign
          · exact isPart_of_isDigit (digits d inDigits)
        · intro rest ends
          have first : ∀ d ∈ (Text.leadingDigits behind ++ rest).head?, d.isDigit = true :=
            head_digits marked.2 digits
          have taken : Text.leadingDigits (Text.leadingDigits behind ++ rest) =
              Text.leadingDigits behind := Json.takeWhile_append_of_stops digits ends.stops_digit
          have left := Json.dropWhile_append_of_stops digits ends.stops_digit
          simp only [List.cons_append, List.append_assoc, scanExponent, same _ first, taken, left]
          rw [if_pos marked]
      next =>
        obtain ⟨rfl, rfl⟩ := Prod.mk.inj scanned
        exact ⟨[], rfl, by simp [Opens], by simp, fun _ ends => scanExponent_of_ends ends⟩

/-! ## The whole numeral -/

theorem scanMinus_of_digit {rest : Text} (digit : ∀ c ∈ rest.head?, c.isDigit = true) :
    scanMinus rest = (false, rest) := by
  cases rest with
  | nil => rfl
  | cons c rest =>
      have isDigit := digit c rfl
      have noMinus : c ≠ '-' := by rintro rfl; revert isDigit; decide
      simp [scanMinus, noMinus]

theorem scanMinus_local (t : Text) :
    ∃ sign, t = sign ++ (scanMinus t).2 ∧ (∀ c ∈ sign, isPart c = true) ∧
      ∀ rest, (∀ c ∈ rest.head?, c.isDigit = true) →
        scanMinus (sign ++ rest) = ((scanMinus t).1, rest) := by
  cases t with
  | nil => exact ⟨[], rfl, by simp, fun rest digit => scanMinus_of_digit digit⟩
  | cons c t =>
      by_cases minus : c = '-'
      · subst minus
        exact ⟨['-'], by simp [scanMinus], by decide, fun rest _ => by simp [scanMinus]⟩
      · refine ⟨[], by simp [scanMinus, minus], by simp, fun rest digit => ?_⟩
        rw [List.nil_append, scanMinus_of_digit digit]
        simp [scanMinus, minus]

theorem scan?_local {t left : Text} {n : Numeral} (scanned : scan? t = some (n, left)) :
    ∃ s, t = s ++ left ∧ s ≠ [] ∧ (∀ c ∈ s, isPart c = true) ∧
      ∀ rest, Ends rest → scan? (s ++ rest) = some (n, rest) := by
  simp only [scan?] at scanned
  split at scanned
  · simp at scanned
  next whole behind wholeScanned =>
    obtain ⟨rfl, rfl⟩ := Prod.mk.inj (Option.some.inj scanned)
    obtain ⟨sign, signed, signParts, sameSign⟩ := scanMinus_local t
    obtain ⟨parted, nonempty, digits, sameWhole⟩ := scanWhole?_local wholeScanned
    obtain ⟨point, pointed, pointOpens, pointParts, sameFraction⟩ :=
      scanFraction_local (Prod.eta (scanFraction behind)).symm
    obtain ⟨mark, marked, markOpens, markParts, sameExponent⟩ :=
      scanExponent_local (Prod.eta (scanExponent (scanFraction behind).2)).symm
    refine ⟨sign ++ whole ++ point ++ mark, ?_, by simp [nonempty], ?_, ?_⟩
    · simp only [List.append_assoc]
      rw [← marked, ← pointed, ← parted, ← signed]
    · intro c mem
      simp only [List.mem_append] at mem
      rcases mem with ((inSign | inWhole) | inPoint) | inMark
      · exact signParts c inSign
      · exact isPart_of_isDigit (digits c inWhole)
      · exact pointParts c inPoint
      · exact markParts c inMark
    · intro rest ends
      have endsWhole : Stops (fun c => c.isDigit || c = '.') (mark ++ rest) := by
        refine markOpens.stops (by decide) fun c first => ?_
        have other := ends c first
        simp only [Json.continuesNumeral, Bool.or_eq_false_iff] at other
        simp [other.1.1.1, other.1.1.2]
      have endsDigits : Stops CodePoint.isDigit (point ++ (mark ++ rest)) := by
        refine pointOpens.stops (by decide) fun c first => ?_
        have other := endsWhole c first
        simp only [Bool.or_eq_false_iff] at other
        exact other.1
      have first : ∀ c ∈ (whole ++ (point ++ (mark ++ rest))).head?, c.isDigit = true :=
        head_digits nonempty digits
      simp only [List.append_assoc, scan?, sameSign _ first, sameWhole _ endsDigits,
        sameFraction _ endsWhole, sameExponent _ ends]

/-! ## Whole numbers as numerals -/

theorem digitsValue_lt {digits : Text} (decimal : ∀ c ∈ digits, c.isDigit = true) :
    digits.digitsValue < Nat.pow 10 digits.length := by
  suffices bound : ∀ start, digits.foldl (fun n c => n * 10 + (c.val - 0x30)) start <
      (start + 1) * Nat.pow 10 digits.length by
    simpa [Text.digitsValue] using bound 0
  induction digits with
  | nil => simp
  | cons c rest ih =>
      intro start
      have nine : c.val - 0x30 ≤ 9 := by
        have digit := decimal c List.mem_cons_self
        simp only [CodePoint.isDigit, Bool.and_eq_true, decide_eq_true_eq] at digit
        omega
      calc rest.foldl (fun n c => n * 10 + (c.val - 0x30)) (start * 10 + (c.val - 0x30))
          < (start * 10 + (c.val - 0x30) + 1) * Nat.pow 10 rest.length :=
            ih (fun d mem => decimal d (List.mem_cons_of_mem c mem)) _
        _ ≤ (start + 1) * 10 * Nat.pow 10 rest.length := Nat.mul_le_mul_right _ (by omega)
        _ = (start + 1) * (Nat.pow 10 rest.length * 10) := by
            rw [Nat.mul_assoc, Nat.mul_comm 10]

/-- A number is written with a leading zero only if it is zero. -/
theorem ofNat_of_leading_zero {n : Nat} {rest : Text}
    (written : Text.ofNat n = .ofChar '0' :: rest) : rest = [] := by
  apply Decidable.by_contra
  intro more
  have digits : ∀ c ∈ rest, c.isDigit = true := fun c mem =>
    Text.isDigit_of_mem_ofNat (written ▸ List.mem_cons_of_mem _ mem)
  have value : n = Text.digitsValue rest := by
    calc n = Text.digitsValue (Text.ofNat n) := (Text.digitsValue_ofNat n).symm
      _ = Text.digitsValue rest := by rw [written]; rfl
  have short : (Text.ofNat n).length ≤ rest.length :=
    (Text.length_ofNat_le_iff (List.length_pos_iff.2 more)).2 (value ▸ digitsValue_lt digits)
  rw [written, List.length_cons] at short
  omega

/-! ## Numerals as they are written -/

def fractionText (digits : Text) : Text :=
  if digits.isEmpty then [] else .ofChar '.' :: digits

/-- An exponent is written with its sign in front, whichever it is. -/
def markText : Option (Bool × Text) → Text
  | none => []
  | some (negative, digits) => .ofChar 'e' :: .ofChar (if negative then '-' else '+') :: digits

def spelled (n : Numeral) : Text :=
  Binary64.signText n.negative ++ (n.whole ++ (fractionText n.fraction ++ markText n.exponent))

/-- What a numeral is made of if it is to be read as it is written. -/
structure Spellable (n : Numeral) : Prop where
  whole : n.whole ≠ [] ∧ ∀ c ∈ n.whole, c.isDigit = true
  leading : ∀ rest, n.whole = .ofChar '0' :: rest → rest = []
  fraction : ∀ c ∈ n.fraction, c.isDigit = true
  exponent : ∀ mark ∈ n.exponent, mark.2 ≠ [] ∧ ∀ c ∈ mark.2, c.isDigit = true

theorem scanMinus_signText (negative : Bool) {rest : Text}
    (digit : ∀ c ∈ rest.head?, c.isDigit = true) :
    scanMinus (Binary64.signText negative ++ rest) = (negative, rest) := by
  cases negative with
  | true => rfl
  | false => exact scanMinus_of_digit digit

theorem scanWhole?_append {whole rest : Text} (nonempty : whole ≠ [])
    (digits : ∀ c ∈ whole, c.isDigit = true)
    (leading : ∀ more, whole = .ofChar '0' :: more → more = [])
    (stops : Stops CodePoint.isDigit rest) : scanWhole? (whole ++ rest) = some (whole, rest) := by
  obtain ⟨c, more, rfl⟩ := List.exists_cons_of_ne_nil nonempty
  by_cases zero : c = .ofChar '0'
  · subst zero
    obtain rfl := leading more rfl
    rfl
  · have taken : Text.leadingDigits ((c :: more) ++ rest) = c :: more :=
      Json.takeWhile_append_of_stops digits stops
    have left := Json.dropWhile_append_of_stops digits stops
    have digit : c.isDigit = true := digits c List.mem_cons_self
    rw [List.cons_append] at taken left ⊢
    simp only [scanWhole?, if_neg zero, if_pos digit, taken, left]

theorem scanFraction_fractionText {digits rest : Text} (all : ∀ c ∈ digits, c.isDigit = true)
    (stops : Stops (fun c => c.isDigit || c = '.') rest) :
    scanFraction (fractionText digits ++ rest) = (digits, rest) := by
  cases digits with
  | nil => exact scanFraction_of_stops stops
  | cons d more =>
      have noDigit : Stops CodePoint.isDigit rest := by
        intro c first
        have other := stops c first
        simp only [Bool.or_eq_false_iff] at other
        exact other.1
      have taken : Text.leadingDigits ((d :: more) ++ rest) = d :: more :=
        Json.takeWhile_append_of_stops all noDigit
      have left := Json.dropWhile_append_of_stops all noDigit
      change scanFraction (.ofChar '.' :: ((d :: more) ++ rest)) = _
      rw [scanFraction, taken, left, if_pos ⟨rfl, List.cons_ne_nil d more⟩]

theorem scanExponent_markText {exponent : Option (Bool × Text)} {rest : Text}
    (marked : ∀ mark ∈ exponent, mark.2 ≠ [] ∧ ∀ c ∈ mark.2, c.isDigit = true)
    (ends : Ends rest) : scanExponent (markText exponent ++ rest) = (exponent, rest) := by
  cases exponent with
  | none => exact scanExponent_of_ends ends
  | some mark =>
      obtain ⟨negative, digits⟩ := mark
      obtain ⟨nonempty, all⟩ := marked _ rfl
      have taken : Text.leadingDigits (digits ++ rest) = digits :=
        Json.takeWhile_append_of_stops all ends.stops_digit
      have left := Json.dropWhile_append_of_stops all ends.stops_digit
      have signed : scanSign (.ofChar (if negative then '-' else '+') :: (digits ++ rest)) =
          (negative, digits ++ rest) := by
        cases negative <;> rfl
      change scanExponent (.ofChar 'e' :: .ofChar _ :: (digits ++ rest)) = _
      simp only [scanExponent, signed, taken, left]
      rw [if_pos ⟨.inl trivial, nonempty⟩]

/-- A numeral is read from what it is written as. -/
theorem scan?_spelled {n : Numeral} (spellable : n.Spellable) {rest : Text} (ends : Ends rest) :
    scan? (n.spelled ++ rest) = some (n, rest) := by
  obtain ⟨⟨nonempty, digits⟩, leading, fraction, exponent⟩ := spellable
  have opensExponent : Opens ['e'] (markText n.exponent) := by
    cases n.exponent with
    | none => simp [Opens, markText]
    | some mark => simp [Opens, markText]
  have opensFraction : Opens ['.'] (fractionText n.fraction) := by
    cases n.fraction with
    | nil => simp [Opens, fractionText]
    | cons d more => simp [Opens, fractionText]
  have endsFraction : Stops (fun c => c.isDigit || c = '.') (markText n.exponent ++ rest) := by
    refine opensExponent.stops (by decide) fun c first => ?_
    have other := ends c first
    simp only [Json.continuesNumeral, Bool.or_eq_false_iff] at other
    simp [other.1.1.1, other.1.1.2]
  have endsWhole : Stops CodePoint.isDigit
      (fractionText n.fraction ++ (markText n.exponent ++ rest)) := by
    refine opensFraction.stops (by decide) fun c first => ?_
    have other := endsFraction c first
    simp only [Bool.or_eq_false_iff] at other
    exact other.1
  simp only [spelled, List.append_assoc, scan?, scanMinus_signText _ (head_digits nonempty digits),
    scanWhole?_append nonempty digits leading endsWhole,
    scanFraction_fractionText fraction endsFraction, scanExponent_markText exponent ends]

theorem scan?_ofInt (n : Int) {rest : Text} (ends : Ends rest) :
    scan? (Text.ofInt n ++ rest) =
      some (⟨decide (n < 0), Text.ofNat n.natAbs, [], none⟩, rest) := by
  have shape : Text.ofInt n =
      (⟨decide (n < 0), Text.ofNat n.natAbs, [], none⟩ : Numeral).spelled := by
    by_cases negative : n < 0 <;>
      simp [Text.ofInt, spelled, fractionText, markText, Binary64.signText, negative,
        Text.ofString]
  rw [shape]
  apply scan?_spelled _ ends
  constructor
  · exact ⟨Text.ofNat_ne_nil _, fun c => Text.isDigit_of_mem_ofNat⟩
  · exact fun rest => ofNat_of_leading_zero
  · simp
  · simp

end Numeral

end BlockWire
