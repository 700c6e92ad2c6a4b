/- # Where a string ends

The inside of a string is read in four ways: the closing quote, a code point that
stands for itself, an escape of one letter, an escape by number. `stringBody_cases`
takes a reading apart accordingly. An escape by number looks ahead for a second one
that would join it, but never past a closing quote (`unicodeEscape?_quote`), so a
string is read alike whatever stands behind it (`stringBody_local`).

What is written is read back (`scanString_printString`), unless it holds the two halves
of a pair side by side, which reading joins (`scanString_printString_joined`). -/
import BlockWire.Json.Printer
import BlockWire.Proofs.Outcome
import BlockWire.Proofs.Json.Token
import BlockWire.Text.Wide
import Mathlib.Data.List.Induction

namespace BlockWire

set_option autoImplicit false

namespace Hex

theorem value?_append_singleton (t : Text) (c : CodePoint) :
    value? (t ++ [c]) = (value? t).bind fun n => (digit? c).map fun d => n * 16 + d := by
  simp only [value?, List.foldl_append, List.foldl_cons, List.foldl_nil]
  cases List.foldl _ (some 0) t <;> cases digit? c <;> rfl

theorem isDigit_of_value? {t : Text} {n : Nat} (spelled : value? t = some n) :
    ∀ c ∈ t, isDigit c = true := by
  induction t using List.reverseRecOn generalizing n with
  | nil => simp
  | append_singleton front c ih =>
      simp only [value?_append_singleton, Option.bind_eq_some_iff, Option.map_eq_some_iff]
        at spelled
      obtain ⟨m, before, d, last, -⟩ := spelled
      intro x mem
      rcases List.mem_append.1 mem with inFront | inLast
      · exact ih before x inFront
      · rw [List.mem_singleton.1 inLast, isDigit, last]
        rfl

theorem le_val_of_isDigit {c : CodePoint} (digit : isDigit c = true) : 0x30 ≤ c.val := by
  simp only [isDigit, digit?] at digit
  split at digit
  · omega
  · split at digit
    · omega
    · split at digit
      · omega
      · simp at digit

theorem bounds_of_isDigit {c : CodePoint} (digit : isDigit c = true) :
    c ≠ .ofChar '"' ∧ c ≠ .ofChar '\\' ∧ 0x20 ≤ c.val ∧ c.val < 0x7F := by
  have low := le_val_of_isDigit digit
  have high : c.val ≤ 0x66 := by
    simp only [isDigit, digit?] at digit
    repeat'
      split at digit
      next => omega
    simp at digit
  refine ⟨?_, ?_, by omega, by omega⟩
  · rintro rfl
    revert low
    decide
  · rintro rfl
    revert digit
    decide

theorem length_padded (width n : Nat) : (padded width n).length = width := by
  induction width generalizing n with
  | zero => rfl
  | succ width ih => simp [padded, ih]

theorem value?_padded {width n : Nat} (small : n < Nat.pow 16 width) :
    value? (padded width n) = some n := by
  induction width generalizing n with
  | zero =>
      have zero : n = 0 := Nat.lt_one_iff.1 small
      rw [zero]
      rfl
  | succ width ih =>
      have size : n < Nat.pow 16 width * 16 := small
      have high : n / 16 < Nat.pow 16 width := Nat.div_lt_of_lt_mul (Nat.mul_comm _ 16 ▸ size)
      rw [padded, value?_append_singleton, ih high, digit?_digit _ (Nat.mod_lt n (by decide)),
        Option.bind_some, Option.map_some, Nat.div_add_mod']

end Hex

namespace Json

/-! ## Escapes by number -/

theorem fourDigits?_quote (u rest : Text) :
    fourDigits? (u ++ .ofChar '"' :: rest) =
      if 4 ≤ u.length then (Hex.value? (u.take 4)).map .ofNat else none := by
  by_cases long : 4 ≤ u.length
  · rw [if_pos long, fourDigits?, List.drop_append_of_le_length long,
      List.take_append_of_le_length long]
    simp
  · rw [if_neg long, fourDigits?]
    split
    · rfl
    · rw [Option.map_eq_none_iff]
      -- The quote is among the four.
      apply Option.eq_none_iff_forall_ne_some.2
      intro n spelled
      have quote : CodePoint.ofChar '"' ∈ (u ++ .ofChar '"' :: rest).take 4 := by
        rw [List.take_append, List.take_cons (by omega)]
        simp
      exact absurd (Hex.isDigit_of_value? spelled _ quote) (by decide)

theorem lowEscape?_cons_cons (c d : CodePoint) (t : Text) :
    lowEscape? (c :: d :: t) =
      if c = .ofChar '\\' ∧ d = .ofChar 'u' then
        (fourDigits? t).bind fun x => if x.isLowSurrogate then some x else none
      else none := by
  have mark : Text.ofString "\\u" = [.ofChar '\\', .ofChar 'u'] := rfl
  by_cases backslash : CodePoint.ofChar '\\' = c
  · by_cases letter : CodePoint.ofChar 'u' = d
    · simp only [lowEscape?, mark, Text.after?, if_pos backslash, if_pos letter,
        if_pos (And.intro backslash.symm letter.symm)]
      cases fourDigits? t <;> rfl
    · rw [if_neg fun both => letter both.2.symm]
      simp only [lowEscape?, mark, Text.after?, if_pos backslash, if_neg letter]
  · rw [if_neg fun both => backslash both.1.symm]
    simp only [lowEscape?, mark, Text.after?, if_neg backslash]

theorem lowEscape?_of_other {c : CodePoint} {t : Text} (other : c ≠ .ofChar '\\') :
    lowEscape? (c :: t) = none := by
  cases t with
  | nil =>
      have mark : Text.ofString "\\u" = [.ofChar '\\', .ofChar 'u'] := rfl
      simp only [lowEscape?, mark, Text.after?, if_neg (Ne.symm other)]
  | cons d t => rw [lowEscape?_cons_cons, if_neg fun both => other both.1]

theorem lowEscape?_quote (u rest rest' : Text) :
    lowEscape? (u ++ .ofChar '"' :: rest) = lowEscape? (u ++ .ofChar '"' :: rest') := by
  have quote : CodePoint.ofChar '"' ≠ .ofChar '\\' := by decide
  have noLetter : CodePoint.ofChar '"' ≠ .ofChar 'u' := by decide
  match u with
  | [] =>
      rw [List.nil_append, List.nil_append, lowEscape?_of_other quote, lowEscape?_of_other quote]
  | [c] =>
      simp only [List.cons_append, List.nil_append, lowEscape?_cons_cons, noLetter, and_false,
        if_false]
  | c :: d :: u => simp only [List.cons_append, lowEscape?_cons_cons, fourDigits?_quote]

/-- What an escape by number is does not depend on what stands behind the string. -/
theorem unicodeEscape?_quote (u rest rest' : Text) :
    unicodeEscape? (u ++ .ofChar '"' :: rest) = unicodeEscape? (u ++ .ofChar '"' :: rest') := by
  by_cases long : 4 ≤ u.length
  · simp only [unicodeEscape?, fourDigits?_quote, List.drop_append_of_le_length long,
      lowEscape?_quote (u.drop 4) rest rest']
  · simp only [unicodeEscape?, fourDigits?_quote, if_neg long]

theorem fourDigits?_printable {t : Text} {c : CodePoint} (spelled : fourDigits? t = some c) :
    ∀ d ∈ t.take 4, 0x20 ≤ d.val := by
  simp only [fourDigits?] at spelled
  split at spelled
  · simp at spelled
  · obtain ⟨n, digits, -⟩ := Option.map_eq_some_iff.1 spelled
    intro d mem
    have low := Hex.le_val_of_isDigit (Hex.isDigit_of_value? digits d mem)
    omega

theorem lowEscape?_printable {t : Text} {c : CodePoint} (spelled : lowEscape? t = some c) :
    ∀ d ∈ t.take 6, 0x20 ≤ d.val := by
  match t with
  | [] => simp
  | [d] => simp [lowEscape?, Text.after?, Text.ofString] at spelled
  | c :: d :: t =>
      rw [lowEscape?_cons_cons] at spelled
      split at spelled
      next mark =>
        obtain ⟨x, digits, -⟩ := Option.bind_eq_some_iff.1 spelled
        rw [List.take_succ_cons, List.take_succ_cons, mark.1, mark.2, List.forall_mem_cons,
          List.forall_mem_cons]
        exact ⟨by decide, by decide, fourDigits?_printable digits⟩
      · simp at spelled

theorem unicodeEscape?_printable {t : Text} {c : CodePoint} {length : Nat}
    (spelled : unicodeEscape? t = some (c, length)) : ∀ d ∈ t.take length, 0x20 ≤ d.val := by
  simp only [unicodeEscape?] at spelled
  split at spelled
  · simp at spelled
  next first digits =>
    split at spelled
    next low joined =>
      obtain ⟨-, rfl⟩ := Prod.mk.inj (Option.some.inj spelled)
      split at joined
      · intro d mem
        rw [show 10 = 4 + 6 from rfl, List.take_add] at mem
        rcases List.mem_append.1 mem with inFirst | inSecond
        · exact fourDigits?_printable digits d inFirst
        · exact lowEscape?_printable joined d inSecond
      · simp at joined
    · obtain ⟨-, rfl⟩ := Prod.mk.inj (Option.some.inj spelled)
      exact fourDigits?_printable digits

/-! ## The inside of a string -/

theorem simpleEscape?_printable {e x : CodePoint} (escape : simpleEscape? e = some x) :
    0x20 ≤ e.val ∧ e.val < 0x7F ∧ e ≠ .ofChar 'u' := by
  simp only [simpleEscape?] at escape
  split at escape
  next listed => rcases listed with rfl | rfl | rfl <;> decide
  repeat'
    split at escape
    next listed => subst listed; decide
  simp at escape

theorem simpleEscape?_ascii {e x : CodePoint} (escape : simpleEscape? e = some x) :
    x.val < 0x80 := by
  simp only [simpleEscape?] at escape
  split at escape
  next listed =>
    obtain rfl := Option.some.inj escape
    rcases listed with rfl | rfl | rfl <;> decide
  repeat'
    split at escape
    next => obtain rfl := Option.some.inj escape; decide
  simp at escape

/-- Code points that belong to an escape are passed over. -/
theorem stringBody_skip (opening : Text) (skip : Nat) (t : Text) :
    stringBody opening skip t = stringBody opening 0 (t.drop skip) := by
  induction skip generalizing t with
  | zero => rfl
  | succ skip ih =>
      cases t with
      | nil => rfl
      | cons c t => rw [stringBody, ih, List.drop_succ_cons]

section

variable {opening t body left : Text}

theorem stringBody_quote : stringBody opening 0 (.ofChar '"' :: t) = .ok ([], t) := by
  cases t <;> rw [stringBody, if_pos rfl]

theorem stringBody_other {c : CodePoint} (noQuote : c ≠ .ofChar '"')
    (noBackslash : c ≠ .ofChar '\\') :
    stringBody opening 0 (c :: t) =
      if c.val < 0x20 then .error (.located .control (c :: t))
      else stringBody opening 0 t >>= fun read => .ok (c :: read.1, read.2) := by
  cases t with
  | nil => simp only [stringBody, if_neg noQuote, if_neg noBackslash]
  | cons e u => rw [stringBody, if_neg noQuote, if_neg noBackslash]

theorem stringBody_plain {c : CodePoint} (noQuote : c ≠ .ofChar '"')
    (noBackslash : c ≠ .ofChar '\\') (noControl : 0x20 ≤ c.val)
    (rest : stringBody opening 0 t = .ok (body, left)) :
    stringBody opening 0 (c :: t) = .ok (c :: body, left) := by
  rw [stringBody_other noQuote noBackslash, if_neg (Nat.not_lt.2 noControl), rest]
  rfl

theorem stringBody_simple {e x : CodePoint} (escape : simpleEscape? e = some x)
    (rest : stringBody opening 0 t = .ok (body, left)) :
    stringBody opening 0 (.ofChar '\\' :: e :: t) = .ok (x :: body, left) := by
  rw [stringBody, if_neg (by decide), if_pos rfl]
  simp only [if_neg (simpleEscape?_printable escape).2.2, escape, stringBody_skip opening 1,
    List.drop_succ_cons, List.drop_zero, rest]
  rfl

theorem stringBody_unicode {x : CodePoint} {n : Nat} (escape : unicodeEscape? t = some (x, n))
    (rest : stringBody opening 0 (t.drop n) = .ok (body, left)) :
    stringBody opening 0 (.ofChar '\\' :: .ofChar 'u' :: t) = .ok (x :: body, left) := by
  rw [stringBody, if_neg (by decide), if_pos rfl]
  simp only [if_true, escape, stringBody_skip opening (n + 1), List.drop_succ_cons, rest]
  rfl

/-- The four ways in which the inside of a string is read. -/
theorem stringBody_cases (read : stringBody opening 0 t = .ok (body, left)) :
    (t = .ofChar '"' :: left ∧ body = []) ∨
      (∃ c u more, t = c :: u ∧ c ≠ .ofChar '"' ∧ c ≠ .ofChar '\\' ∧ 0x20 ≤ c.val ∧
        stringBody opening 0 u = .ok (more, left) ∧ body = c :: more) ∨
      (∃ e x u more, t = .ofChar '\\' :: e :: u ∧ simpleEscape? e = some x ∧
        stringBody opening 0 u = .ok (more, left) ∧ body = x :: more) ∨
      ∃ x length u more, t = .ofChar '\\' :: .ofChar 'u' :: u ∧
        unicodeEscape? u = some (x, length) ∧
        stringBody opening 0 (u.drop length) = .ok (more, left) ∧ body = x :: more := by
  cases t with
  | nil => simp [stringBody] at read
  | cons c t =>
      by_cases quote : c = .ofChar '"'
      · rw [quote, stringBody_quote] at read
        obtain ⟨rfl, rfl⟩ := Prod.mk.inj (Except.ok.inj read)
        exact .inl ⟨by rw [quote], rfl⟩
      by_cases backslash : c = .ofChar '\\'
      · cases t with
        | nil => simp [stringBody, if_neg quote, if_pos backslash] at read
        | cons e u =>
            rw [stringBody, if_neg quote, if_pos backslash] at read
            by_cases letter : e = .ofChar 'u'
            · simp only [if_pos letter] at read
              split at read
              next x length escape =>
                rw [stringBody_skip, List.drop_succ_cons, bind_eq_ok] at read
                obtain ⟨⟨more, behind⟩, rest, same⟩ := read
                obtain ⟨rfl, rfl⟩ := Prod.mk.inj (Except.ok.inj same)
                exact .inr (.inr (.inr
                  ⟨x, length, u, more, by rw [backslash, letter], escape, rest, rfl⟩))
              · simp at read
            · simp only [if_neg letter] at read
              split at read
              next x escape =>
                rw [stringBody_skip, List.drop_succ_cons, List.drop_zero, bind_eq_ok] at read
                obtain ⟨⟨more, behind⟩, rest, same⟩ := read
                obtain ⟨rfl, rfl⟩ := Prod.mk.inj (Except.ok.inj same)
                exact .inr (.inr (.inl ⟨e, x, u, more, by rw [backslash], escape, rest, rfl⟩))
              · simp at read
      · rw [stringBody_other quote backslash, guard_eq_ok, bind_eq_ok] at read
        obtain ⟨noControl, ⟨more, behind⟩, rest, same⟩ := read
        obtain ⟨rfl, rfl⟩ := Prod.mk.inj (Except.ok.inj same)
        exact .inr (.inl
          ⟨c, t, more, rfl, quote, backslash, Nat.not_lt.1 noControl, rest, rfl⟩)

/-- A string is read alike whatever stands behind its closing quote. -/
theorem stringBody_local (read : stringBody opening 0 t = .ok (body, left)) :
    ∃ s, t = s ++ .ofChar '"' :: left ∧ (∀ c ∈ s, 0x20 ≤ c.val) ∧
      ∀ opening' rest, stringBody opening' 0 (s ++ .ofChar '"' :: rest) = .ok (body, rest) := by
  induction size : t.length using Nat.strongRecOn generalizing t body with
  | _ n ih =>
      rcases stringBody_cases read with ⟨rfl, rfl⟩ |
        ⟨c, u, more, rfl, noQuote, noBackslash, noControl, rest, rfl⟩ |
        ⟨e, x, u, more, rfl, escape, rest, rfl⟩ | ⟨x, length, u, more, rfl, escape, rest, rfl⟩
      · exact ⟨[], rfl, by simp, fun _ _ => stringBody_quote⟩
      · have shorter : u.length < n := size ▸ Nat.lt_succ_self _
        obtain ⟨s, rfl, printable, same⟩ := ih u.length shorter rest rfl
        refine ⟨c :: s, rfl, List.forall_mem_cons.2 ⟨noControl, printable⟩, fun o r => ?_⟩
        exact stringBody_plain noQuote noBackslash noControl (same o r)
      · have shorter : u.length < n := by
          rw [← size, List.length_cons, List.length_cons]
          omega
        obtain ⟨s, rfl, printable, same⟩ := ih u.length shorter rest rfl
        refine ⟨.ofChar '\\' :: e :: s, rfl, ?_, fun o r => stringBody_simple escape (same o r)⟩
        rw [List.forall_mem_cons, List.forall_mem_cons]
        exact ⟨by decide, (simpleEscape?_printable escape).1, printable⟩
      · have shorter : (u.drop length).length < n := by
          rw [← size, List.length_cons, List.length_cons, List.length_drop]
          omega
        obtain ⟨s, behind, printable, same⟩ := ih _ shorter rest rfl
        have parted : u = u.take length ++ (s ++ .ofChar '"' :: left) := by
          rw [← behind, List.take_append_drop]
        have long : (u.take length).length = length := by
          rw [List.length_take, Nat.min_eq_left]
          have more := congrArg List.length behind
          simp only [List.length_drop, List.length_append, List.length_cons] at more
          omega
        refine ⟨.ofChar '\\' :: .ofChar 'u' :: (u.take length ++ s), ?_, ?_, fun o r => ?_⟩
        · simp only [List.cons_append, List.append_assoc]
          rw [← parted]
        · rw [List.forall_mem_cons, List.forall_mem_cons]
          refine ⟨by decide, by decide, fun d mem => ?_⟩
          rcases List.mem_append.1 mem with inEscape | inRest
          · exact unicodeEscape?_printable escape d inEscape
          · exact printable d inRest
        · simp only [List.cons_append]
          apply stringBody_unicode (n := length)
          · rw [← escape]
            conv_rhs => rw [parted, ← List.append_assoc]
            exact unicodeEscape?_quote _ _ _
          · rw [List.append_assoc, List.drop_left' long]
            exact same o r

/-- A string takes a code point for each of its own and one for the quote, and no more only
where each stands for itself. -/
theorem stringBody_length (read : stringBody opening 0 t = .ok (body, left)) :
    body.length + 1 + left.length ≤ t.length ∧
      (body.length + 1 + left.length = t.length → t = body ++ .ofChar '"' :: left) := by
  induction size : t.length using Nat.strongRecOn generalizing t body with
  | _ n ih =>
      subst size
      rcases stringBody_cases read with ⟨rfl, rfl⟩ |
        ⟨c, u, more, rfl, -, -, -, rest, rfl⟩ | ⟨e, x, u, more, rfl, -, rest, rfl⟩ |
        ⟨x, length, u, more, rfl, -, rest, rfl⟩
      · simp only [List.length_nil, List.length_cons]
        exact ⟨by omega, fun _ => rfl⟩
      · obtain ⟨fewer, same⟩ := ih u.length (Nat.lt_succ_self _) rest rfl
        simp only [List.length_cons]
        refine ⟨by omega, fun equal => ?_⟩
        rw [same (by omega)]
        rfl
      · have shorter : u.length < (CodePoint.ofChar '\\' :: e :: u).length := by
          simp only [List.length_cons]
          omega
        obtain ⟨fewer, -⟩ := ih u.length shorter rest rfl
        simp only [List.length_cons]
        exact ⟨by omega, fun equal => by omega⟩
      · have dropped : (u.drop length).length ≤ u.length := by
          rw [List.length_drop]
          exact Nat.sub_le _ _
        have shorter : (u.drop length).length <
            (CodePoint.ofChar '\\' :: .ofChar 'u' :: u).length := by
          simp only [List.length_cons]
          omega
        obtain ⟨fewer, -⟩ := ih _ shorter rest rfl
        simp only [List.length_cons]
        exact ⟨by omega, fun equal => by omega⟩

end

theorem scanString_local {t body left : Text}
    (read : scanString (.ofChar '"' :: t) = .ok (body, left)) :
    ∃ s, t = s ++ .ofChar '"' :: left ∧ (∀ c ∈ s, 0x20 ≤ c.val) ∧
      ∀ rest, scanString (.ofChar '"' :: (s ++ .ofChar '"' :: rest)) = .ok (body, rest) := by
  obtain ⟨s, parted, printable, same⟩ := stringBody_local read
  exact ⟨s, parted, printable, fun rest => same _ rest⟩

/-! ## Reading what was written -/

/-- No high surrogate stands directly before a low one. -/
def Unpaired (t : Text) : Prop :=
  ∀ front high low back, t = front ++ high :: low :: back → high.isHighSurrogate = true →
    low.isLowSurrogate = false

theorem Unpaired.tail {c : CodePoint} {t : Text} (unpaired : Unpaired (c :: t)) : Unpaired t :=
  fun front high low back parted => unpaired (c :: front) high low back (by rw [parted]; rfl)

theorem unpaired_of_plain {t : Text} (plain : ∀ c ∈ t, c.isSurrogate = false) : Unpaired t := by
  rintro front high low back rfl isHigh
  rw [CodePoint.isHighSurrogate_of_plain (plain high (by simp))] at isHigh
  cases isHigh

/-- How a code point is written: by a letter, as itself, by its number, as a pair. -/
theorem escaped_cases (c : CodePoint) :
    (∃ e, escaped c = [.ofChar '\\', e] ∧ simpleEscape? e = some c) ∨
      (escaped c = [c] ∧ c ≠ .ofChar '"' ∧ c ≠ .ofChar '\\' ∧ 0x20 ≤ c.val ∧ c.val < 0x7F) ∨
      (escaped c = unitEscape c ∧ c.val < 0x10000) ∨
      (escaped c = unitEscape c.toPair.1 ++ unitEscape c.toPair.2 ∧ 0x10000 ≤ c.val) := by
  unfold escaped
  split
  next quote => exact .inl ⟨.ofChar '"', rfl, by rw [quote]; decide⟩
  next noQuote =>
  split
  next backslash => exact .inl ⟨.ofChar '\\', rfl, by rw [backslash]; decide⟩
  next noBackslash =>
  split
  next feed => exact .inl ⟨.ofChar 'n', rfl, by rw [feed]; decide⟩
  split
  next carriage => exact .inl ⟨.ofChar 'r', rfl, by rw [carriage]; decide⟩
  split
  next tab => exact .inl ⟨.ofChar 't', rfl, by rw [tab]; decide⟩
  split
  next backspace =>
    have same : c = ⟨8, by decide⟩ := CodePoint.val_injective backspace
    exact .inl ⟨.ofChar 'b', rfl, by rw [same]; decide⟩
  split
  next page =>
    have same : c = ⟨12, by decide⟩ := CodePoint.val_injective page
    exact .inl ⟨.ofChar 'f', rfl, by rw [same]; decide⟩
  split
  next printable => exact .inr (.inl ⟨rfl, noQuote, noBackslash, printable⟩)
  split
  next unit => exact .inr (.inr (.inl ⟨rfl, unit⟩))
  next astral => exact .inr (.inr (.inr ⟨rfl, Nat.not_lt.1 astral⟩))

theorem unitEscape_eq (c : CodePoint) :
    unitEscape c = .ofChar '\\' :: .ofChar 'u' :: Hex.padded 4 c.val := rfl

theorem val_toPair_lt (c : CodePoint) :
    c.toPair.1.val < 0x10000 ∧ c.toPair.2.val < 0x10000 := by
  have high := CodePoint.isHighSurrogate_toPair c
  have low := CodePoint.isLowSurrogate_toPair c
  simp only [CodePoint.isHighSurrogate, Bool.and_eq_true, decide_eq_true_eq] at high
  simp only [CodePoint.isLowSurrogate, Bool.and_eq_true, decide_eq_true_eq] at low
  omega

theorem fourDigits?_padded {c : CodePoint} (unit : c.val < 0x10000) {t : Text} (more : t ≠ []) :
    fourDigits? (Hex.padded 4 c.val ++ t) = some c := by
  have four : (Hex.padded 4 c.val).length = 4 := Hex.length_padded 4 c.val
  rw [fourDigits?, List.drop_left' four, List.take_left' four, if_neg (by simpa using more),
    Hex.value?_padded unit, Option.map_some, CodePoint.ofNat_val]

theorem lowEscape?_unitEscape {c : CodePoint} (unit : c.val < 0x10000) {t : Text}
    (more : t ≠ []) :
    lowEscape? (unitEscape c ++ t) = if c.isLowSurrogate then some c else none := by
  rw [unitEscape_eq, List.cons_append, List.cons_append, lowEscape?_cons_cons,
    if_pos ⟨rfl, rfl⟩, fourDigits?_padded unit more, Option.bind_some]

/-- Only a low surrogate is written as an escape that joins the one before it. -/
theorem lowEscape?_flatMap_escaped {t : Text} (noLow : ∀ c ∈ t.head?, c.isLowSurrogate = false)
    (rest : Text) : lowEscape? (t.flatMap escaped ++ .ofChar '"' :: rest) = none := by
  cases t with
  | nil => exact lowEscape?_of_other (by decide)
  | cons c t =>
      rw [List.flatMap_cons, List.append_assoc]
      rcases escaped_cases c with ⟨e, written, escape⟩ | ⟨written, -, noBackslash, -⟩ |
        ⟨written, unit⟩ | ⟨written, -⟩ <;> rw [written]
      · simp only [List.cons_append, List.nil_append]
        rw [lowEscape?_cons_cons, if_neg fun both => (simpleEscape?_printable escape).2.2 both.2]
      · exact lowEscape?_of_other noBackslash
      · rw [lowEscape?_unitEscape unit (by simp), noLow c rfl, if_neg Bool.false_ne_true]
      · have high := CodePoint.isHighSurrogate_toPair c
        have noLow : c.toPair.1.isLowSurrogate = false := by
          simp only [CodePoint.isHighSurrogate, Bool.and_eq_true, decide_eq_true_eq] at high
          simp only [CodePoint.isLowSurrogate, Bool.and_eq_false_iff, decide_eq_false_iff_not]
          omega
        rw [List.append_assoc, lowEscape?_unitEscape (val_toPair_lt c).1 (by simp [unitEscape_eq]),
          noLow, if_neg Bool.false_ne_true]

/-- An escape by number that none behind it joins. -/
theorem unicodeEscape?_alone {c : CodePoint} (unit : c.val < 0x10000) {t : Text} (more : t ≠ [])
    (alone : c.isHighSurrogate = true → lowEscape? t = none) :
    unicodeEscape? (Hex.padded 4 c.val ++ t) = some (c, 4) := by
  rw [unicodeEscape?, fourDigits?_padded unit more]
  simp only [List.drop_left' (Hex.length_padded 4 c.val)]
  cases high : c.isHighSurrogate with
  | false => rfl
  | true => rw [if_pos rfl, alone high]

theorem unicodeEscape?_joined {high low : CodePoint} {t : Text}
    (digits : fourDigits? t = some high) (isHigh : high.isHighSurrogate = true)
    (joined : lowEscape? (t.drop 4) = some low) :
    unicodeEscape? t = some (.ofPair high low, 10) := by
  rw [unicodeEscape?, digits]
  simp only [isHigh, if_true, joined]

theorem unicodeEscape?_pair {c : CodePoint} (astral : 0x10000 ≤ c.val) {t : Text}
    (more : t ≠ []) :
    unicodeEscape? (Hex.padded 4 c.toPair.1.val ++ (unitEscape c.toPair.2 ++ t)) =
      some (c, 10) := by
  have units := val_toPair_lt c
  have behind : unitEscape c.toPair.2 ++ t ≠ [] := by simp [unitEscape_eq]
  rw [unicodeEscape?_joined (fourDigits?_padded units.1 behind)
    (CodePoint.isHighSurrogate_toPair c), CodePoint.ofPair_toPair astral]
  rw [List.drop_left' (Hex.length_padded 4 c.toPair.1.val), lowEscape?_unitEscape units.2 more,
    CodePoint.isLowSurrogate_toPair, if_pos rfl]

/-- A code point that is written is read again, unless the escape behind it joins it. -/
theorem stringBody_escaped {opening body left u : Text} {c : CodePoint} (more : u ≠ [])
    (alone : c.isHighSurrogate = true → lowEscape? u = none)
    (later : stringBody opening 0 u = .ok (body, left)) :
    stringBody opening 0 (escaped c ++ u) = .ok (c :: body, left) := by
  rcases escaped_cases c with ⟨e, written, escape⟩ | ⟨written, plain⟩ | ⟨written, unit⟩ |
    ⟨written, astral⟩ <;> rw [written]
  · exact stringBody_simple escape later
  · exact stringBody_plain plain.1 plain.2.1 plain.2.2.1 later
  · rw [unitEscape_eq, List.cons_append, List.cons_append]
    refine stringBody_unicode (unicodeEscape?_alone unit more alone) ?_
    rw [List.drop_left' (Hex.length_padded 4 c.val)]
    exact later
  · have ten : (Hex.padded 4 c.toPair.1.val ++ unitEscape c.toPair.2).length = 10 := by
      rw [List.length_append, Hex.length_padded]
      rfl
    rw [unitEscape_eq c.toPair.1, List.append_assoc, List.cons_append, List.cons_append]
    refine stringBody_unicode (unicodeEscape?_pair astral more) ?_
    rw [← List.append_assoc, List.drop_left' ten]
    exact later

theorem escaped_surrogate {c : CodePoint}
    (half : c.isHighSurrogate = true ∨ c.isLowSurrogate = true) :
    escaped c = unitEscape c ∧ c.val < 0x10000 := by
  simp only [CodePoint.isHighSurrogate, CodePoint.isLowSurrogate, Bool.and_eq_true,
    decide_eq_true_eq] at half
  rcases escaped_cases c with ⟨e, -, escape⟩ | ⟨-, -, -, -, low⟩ | written | ⟨-, astral⟩
  · have ascii := simpleEscape?_ascii escape
    omega
  · omega
  · exact written
  · omega

/-- Two halves of a pair that are written side by side are read as what the pair spells. -/
theorem stringBody_pair {opening body left u : Text} {high low : CodePoint}
    (isHigh : high.isHighSurrogate = true) (isLow : low.isLowSurrogate = true) (more : u ≠ [])
    (later : stringBody opening 0 u = .ok (body, left)) :
    stringBody opening 0 (escaped high ++ (escaped low ++ u)) =
      .ok (.ofPair high low :: body, left) := by
  obtain ⟨writtenHigh, unitHigh⟩ := escaped_surrogate (.inl isHigh)
  obtain ⟨writtenLow, unitLow⟩ := escaped_surrogate (.inr isLow)
  have behind : unitEscape low ++ u ≠ [] := by simp [unitEscape_eq]
  have ten : (Hex.padded 4 high.val ++ unitEscape low).length = 10 := by
    rw [List.length_append, Hex.length_padded, unitEscape_eq, List.length_cons, List.length_cons,
      Hex.length_padded]
  rw [writtenHigh, writtenLow, unitEscape_eq high, List.cons_append, List.cons_append]
  refine stringBody_unicode (unicodeEscape?_joined (fourDigits?_padded unitHigh behind) isHigh ?_) ?_
  · rw [List.drop_left' (Hex.length_padded 4 high.val), lowEscape?_unitEscape unitLow more, isLow,
      if_pos rfl]
  · rw [← List.append_assoc, List.drop_left' ten]
    exact later

theorem stringBody_flatMap_escaped (opening t rest : Text) :
    stringBody opening 0 (t.flatMap escaped ++ .ofChar '"' :: rest) =
      .ok (Wide.joinPairs t, rest) := by
  fun_induction Wide.joinPairs t with
  | case1 high low t pair ih =>
      rw [Bool.and_eq_true] at pair
      rw [List.flatMap_cons, List.flatMap_cons, List.append_assoc, List.append_assoc]
      exact stringBody_pair pair.1 pair.2 (by simp) ih
  | case2 high low t noPair ih =>
      rw [List.flatMap_cons, List.append_assoc]
      refine stringBody_escaped (by simp) (fun isHigh => ?_) ih
      apply lowEscape?_flatMap_escaped
      rintro _ ⟨⟩
      simpa [isHigh] using noPair
  | case3 short noNeighbours =>
      rcases short with _ | ⟨c, _ | ⟨low, t⟩⟩
      · exact stringBody_quote
      · rw [List.flatMap_cons, List.append_assoc]
        refine stringBody_escaped (by simp) (fun _ => ?_) stringBody_quote
        exact lowEscape?_of_other (by decide)
      · exact absurd rfl (noNeighbours c low t)

theorem joinPairs_of_unpaired {t : Text} (unpaired : Unpaired t) : Wide.joinPairs t = t := by
  fun_induction Wide.joinPairs t with
  | case1 high low t pair ih =>
      rw [Bool.and_eq_true] at pair
      have noLow := unpaired [] high low t rfl pair.1
      rw [pair.2] at noLow
      cases noLow
  | case2 high low t noPair ih => rw [ih unpaired.tail]
  | case3 short noNeighbours => rfl

theorem printString_eq (t : Text) :
    printString t = .ofChar '"' :: (t.flatMap escaped ++ [.ofChar '"']) := rfl

theorem escaped_of_plain {c : CodePoint} (noQuote : c ≠ .ofChar '"')
    (noBackslash : c ≠ .ofChar '\\') (printable : 0x20 ≤ c.val) (ascii : c.val < 0x7F) :
    escaped c = [c] := by
  have noControl : ∀ d : CodePoint, d.val < 0x20 → c ≠ d := by
    rintro d low rfl
    omega
  rw [escaped, if_neg noQuote, if_neg noBackslash, if_neg (noControl _ (by decide)),
    if_neg (noControl _ (by decide)), if_neg (noControl _ (by decide)), if_neg (by omega),
    if_neg (by omega), if_pos ⟨printable, ascii⟩]

/-- A text with nothing to escape is written between quotes as it stands. -/
theorem printString_of_plain {t : Text}
    (plain : ∀ c ∈ t, c ≠ .ofChar '"' ∧ c ≠ .ofChar '\\' ∧ 0x20 ≤ c.val ∧ c.val < 0x7F) :
    printString t = .ofChar '"' :: (t ++ [.ofChar '"']) := by
  have same : t.flatMap escaped = t := by
    induction t with
    | nil => rfl
    | cons c t ih =>
        obtain ⟨⟨noQuote, noBackslash, printable, ascii⟩, later⟩ := List.forall_mem_cons.1 plain
        rw [List.flatMap_cons, escaped_of_plain noQuote noBackslash printable ascii, ih later]
        rfl
  rw [printString_eq, same]

/-- What is written is read again, with the halves of pairs joined. -/
theorem scanString_printString_joined (t rest : Text) :
    scanString (printString t ++ rest) = .ok (Wide.joinPairs t, rest) := by
  rw [printString_eq, List.cons_append, List.append_assoc]
  exact stringBody_flatMap_escaped _ t rest

end Json

end BlockWire
