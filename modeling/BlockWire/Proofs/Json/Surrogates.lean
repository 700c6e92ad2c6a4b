/- # Surrogates in strings that are read

A text that is read holds no surrogate, so one that a string holds is spelled by its
number there. Where the escape of a high surrogate stands directly before that of a low
one, both are read as the one code point that they spell. So no high surrogate comes to
stand directly before a low one (`unpaired_of_scanString`), and that is all it takes for
the string to be written and read back. -/
import BlockWire.Proofs.Json.StringText
import Mathlib.Data.List.Chain

namespace BlockWire.Json

set_option autoImplicit false

/-! ## Pairs -/

theorem unpaired_iff_isChain {t : Text} :
    Unpaired t ↔
      t.IsChain fun c d => c.isHighSurrogate = true → d.isLowSurrogate = false := by
  rw [List.isChain_iff_forall_rel_of_append_cons_cons]
  constructor
  · intro unpaired c d front back parted
    exact unpaired front c d back parted
  · intro apart front c d back parted
    exact apart parted

instance (t : Text) : Decidable (Unpaired t) := decidable_of_iff _ unpaired_iff_isChain.symm

theorem unpaired_cons {c : CodePoint} {t : Text} :
    Unpaired (c :: t) ↔
      (∀ d ∈ t.head?, c.isHighSurrogate = true → d.isLowSurrogate = false) ∧ Unpaired t := by
  rw [unpaired_iff_isChain, unpaired_iff_isChain, List.isChain_cons]

/-! ## Escapes -/

theorem simpleEscape?_plain {e x : CodePoint} (escape : simpleEscape? e = some x) :
    x.isSurrogate = false := by
  simp only [simpleEscape?] at escape
  split at escape
  next listed =>
    obtain rfl := Option.some.inj escape
    rcases listed with rfl | rfl | rfl <;> decide
  repeat'
    split at escape
    next =>
      obtain rfl := Option.some.inj escape
      decide
  simp at escape

/-- An escape by number spells what its four digits do, unless it is joined by the one behind
it. -/
theorem unicodeEscape?_cases {t : Text} {x : CodePoint} {length : Nat}
    (escape : unicodeEscape? t = some (x, length)) :
    x.isSurrogate = false ∨
      (fourDigits? t = some x ∧ length = 4 ∧
        (x.isHighSurrogate = true → lowEscape? (t.drop 4) = none)) := by
  rw [unicodeEscape?] at escape
  split at escape
  · simp at escape
  next first digits =>
    split at escape
    next low joined =>
      obtain ⟨rfl, -⟩ := Prod.mk.inj (Option.some.inj escape)
      exact .inl (CodePoint.isSurrogate_ofPair first low)
    next alone =>
      obtain ⟨rfl, rfl⟩ := Prod.mk.inj (Option.some.inj escape)
      refine .inr ⟨digits, rfl, fun high => ?_⟩
      rwa [if_pos high] at alone

/-! ## Strings -/

section

variable {opening t body left : Text}

/-- A low surrogate that is read first is what the text begins with an escape of. -/
theorem lowEscape?_of_head (plain : ∀ c ∈ t, c.isSurrogate = false)
    (read : stringBody opening 0 t = .ok (body, left)) :
    ∀ low ∈ body.head?, low.isLowSurrogate = true → lowEscape? t = some low := by
  intro low first isLow
  rcases stringBody_cases read with ⟨-, rfl⟩ | ⟨c, u, more, rfl, -, -, -, -, rfl⟩ |
    ⟨e, x, u, more, -, escape, -, rfl⟩ | ⟨x, length, u, more, rfl, escape, -, rfl⟩
  · cases first
  · obtain rfl := Option.some.inj first
    rw [CodePoint.isLowSurrogate_of_plain (plain c List.mem_cons_self)] at isLow
    cases isLow
  · obtain rfl := Option.some.inj first
    rw [CodePoint.isLowSurrogate_of_plain (simpleEscape?_plain escape)] at isLow
    cases isLow
  · obtain rfl := Option.some.inj first
    rcases unicodeEscape?_cases escape with astral | ⟨digits, -, -⟩
    · rw [CodePoint.isLowSurrogate_of_plain astral] at isLow
      cases isLow
    · rw [lowEscape?_cons_cons, if_pos ⟨rfl, rfl⟩, digits, Option.bind_some, if_pos isLow]

/-- A code point that is no high surrogate stands before anything. -/
theorem Unpaired.cons_of_plain {c : CodePoint} (plain : c.isSurrogate = false)
    (unpaired : Unpaired body) : Unpaired (c :: body) := by
  refine unpaired_cons.2 ⟨fun d _ high => ?_, unpaired⟩
  rw [CodePoint.isHighSurrogate_of_plain plain] at high
  cases high

theorem unpaired_of_stringBody (plain : ∀ c ∈ t, c.isSurrogate = false)
    (read : stringBody opening 0 t = .ok (body, left)) : Unpaired body := by
  induction size : t.length using Nat.strongRecOn generalizing t body with
  | _ n ih =>
      rcases stringBody_cases read with ⟨-, rfl⟩ | ⟨c, u, more, rfl, -, -, -, rest, rfl⟩ |
        ⟨e, x, u, more, rfl, escape, rest, rfl⟩ | ⟨x, length, u, more, rfl, escape, rest, rfl⟩
      · exact unpaired_of_plain (by simp)
      · obtain ⟨here, later⟩ := List.forall_mem_cons.1 plain
        have shorter : u.length < n := size ▸ Nat.lt_succ_self _
        exact (ih u.length shorter later rest rfl).cons_of_plain here
      · obtain ⟨-, -, later⟩ : _ ∧ _ ∧ ∀ c ∈ u, c.isSurrogate = false := by
          simpa only [List.forall_mem_cons] using plain
        have shorter : u.length < n := by
          rw [← size, List.length_cons, List.length_cons]
          omega
        exact (ih u.length shorter later rest rfl).cons_of_plain (simpleEscape?_plain escape)
      · have later : ∀ c ∈ u.drop length, c.isSurrogate = false := by
          intro c mem
          have inside := List.mem_of_mem_drop mem
          exact plain c (List.mem_cons_of_mem _ (List.mem_cons_of_mem _ inside))
        have shorter : (u.drop length).length < n := by
          rw [← size, List.length_cons, List.length_cons, List.length_drop]
          omega
        have unpaired := ih _ shorter later rest rfl
        rcases unicodeEscape?_cases escape with astral | ⟨-, rfl, alone⟩
        · exact unpaired.cons_of_plain astral
        · refine unpaired_cons.2 ⟨fun low first high => ?_, unpaired⟩
          -- A low surrogate here would stand behind as an escape, and join.
          by_contra isLow
          rw [Bool.not_eq_false] at isLow
          have joined := lowEscape?_of_head later rest low first isLow
          rw [alone high] at joined
          cases joined

theorem unpaired_of_scanString (plain : ∀ c ∈ t, c.isSurrogate = false)
    (read : scanString t = .ok (body, left)) : Unpaired body := by
  cases t with
  | nil => cases read
  | cons quote rest => exact unpaired_of_stringBody (List.forall_mem_cons.1 plain).2 read

end

end BlockWire.Json
