/- # What a scan takes off a text

A scan gives a value and the text it leaves. `Takes scan s x` says that it takes
exactly `s` and gives `x`, whatever is left behind, as long as that does not go on
with a numeral (`Ends`). `Local scan` says that every success is of this kind: a scan
looks no further than what it takes.

What is taken is a `Token`: there are no blanks around it and no zero in it, and it
begins in ASCII, so that its octets show in which encoding they are. -/
import BlockWire.Json.Scanner

namespace BlockWire

set_option autoImplicit false

theorem Text.after?_eq_some {word t rest : Text} :
    Text.after? word t = some rest ↔ t = word ++ rest := by
  induction word generalizing t with
  | nil => simp [Text.after?]
  | cons w word ih =>
      cases t with
      | nil => simp [Text.after?]
      | cons c t =>
          by_cases same : w = c
          · simp [Text.after?, same, ih]
          · simp [Text.after?, same, Ne.symm same]

theorem Text.join_cons_cons {α : Type} (separator first second : List α)
    (rest : List (List α)) :
    Text.join separator (first :: second :: rest) =
      first ++ separator ++ Text.join separator (second :: rest) := rfl

namespace Json

/-- A text that does not begin with a code point of a class. -/
def Stops (p : CodePoint → Bool) (rest : Text) : Prop := ∀ c ∈ rest.head?, p c = false

theorem stops_nil (p : CodePoint → Bool) : Stops p [] := by simp [Stops]

theorem stops_cons {p : CodePoint → Bool} {c : CodePoint} {rest : Text} :
    Stops p (c :: rest) ↔ p c = false := by
  simp [Stops]

theorem takeWhile_append_of_stops {p : CodePoint → Bool} {front rest : Text}
    (all : ∀ c ∈ front, p c = true) (stops : Stops p rest) :
    (front ++ rest).takeWhile p = front := by
  rw [List.takeWhile_append_of_pos all]
  cases rest with
  | nil => simp
  | cons c rest => simp [stops_cons.1 stops]

theorem dropWhile_append_of_stops {p : CodePoint → Bool} {front rest : Text}
    (all : ∀ c ∈ front, p c = true) (stops : Stops p rest) :
    (front ++ rest).dropWhile p = rest := by
  rw [List.dropWhile_append_of_pos all]
  cases rest with
  | nil => simp
  | cons c rest => simp [stops_cons.1 stops]

/-- A text parts into what is of a class and what does not begin so. -/
theorem exists_span (p : CodePoint → Bool) (t : Text) :
    ∃ front, t = front ++ t.dropWhile p ∧ ∀ c ∈ front, p c = true :=
  ⟨t.takeWhile p, List.takeWhile_append_dropWhile.symm, fun c mem =>
    List.all_eq_true.1 List.all_takeWhile c mem⟩

/-! ## Blanks -/

theorem skipBlanks_append {blanks rest : Text} (all : ∀ c ∈ blanks, isBlank c = true)
    (solid : Stops isBlank rest) : skipBlanks (blanks ++ rest) = rest :=
  dropWhile_append_of_stops all solid

theorem skipBlanks_of_stops {rest : Text} (solid : Stops isBlank rest) :
    skipBlanks rest = rest := by
  have noBlanks : ∀ c ∈ ([] : Text), isBlank c = true := by simp
  exact skipBlanks_append noBlanks solid

theorem ne_zero_of_isBlank {c : CodePoint} (blank : isBlank c = true) : c.val ≠ 0 := by
  simp only [isBlank, Bool.or_eq_true, decide_eq_true_eq] at blank
  rcases blank with ((rfl | rfl) | rfl) | rfl <;> decide

theorem isAscii_of_isBlank {c : CodePoint} (blank : isBlank c = true) : c.val < 0x80 := by
  simp only [isBlank, Bool.or_eq_true, decide_eq_true_eq] at blank
  rcases blank with ((rfl | rfl) | rfl) | rfl <;> decide

/-! ## Numerals and what ends them -/

/-- The code points with which a numeral could go on. -/
def continuesNumeral (c : CodePoint) : Bool := c.isDigit || c = '.' || c = 'e' || c = 'E'

def Ends (rest : Text) : Prop := Stops continuesNumeral rest

theorem Ends.nil : Ends [] := stops_nil _

theorem Ends.stops_digit {rest : Text} (ends : Ends rest) : Stops CodePoint.isDigit rest := by
  intro c first
  have other := ends c first
  simp only [continuesNumeral, Bool.or_eq_false_iff] at other
  exact other.1.1.1

theorem continuesNumeral_of_isBlank {c : CodePoint} (blank : isBlank c = true) :
    continuesNumeral c = false := by
  simp only [isBlank, Bool.or_eq_true, decide_eq_true_eq] at blank
  rcases blank with ((rfl | rfl) | rfl) | rfl <;> decide

/-- Blanks end a numeral, and so does what stands behind them. -/
theorem Ends.append {blanks rest : Text} (all : ∀ c ∈ blanks, isBlank c = true)
    (ends : Ends rest) : Ends (blanks ++ rest) := by
  cases blanks with
  | nil => exact ends
  | cons c blanks =>
      exact stops_cons.2 (continuesNumeral_of_isBlank (all c List.mem_cons_self))

/-! ## Tokens -/

structure Token (s : Text) : Prop where
  noZero : ∀ c ∈ s, c.val ≠ 0
  starts : ∃ c rest, s = c :: rest ∧ isBlank c = false ∧ c.val < 0x80
  stops : ∃ c, s.getLast? = some c ∧ isBlank c = false

theorem Token.solid {s : Text} (token : Token s) (rest : Text) : Stops isBlank (s ++ rest) := by
  obtain ⟨c, tail, rfl, solid, -⟩ := token.starts
  exact stops_cons.2 solid

theorem Token.length_pos {s : Text} (token : Token s) : 0 < s.length := by
  obtain ⟨c, tail, rfl, -, -⟩ := token.starts
  exact Nat.succ_pos _

/-- What stands between the ends of a token is free as long as it holds no zero. -/
theorem Token.enclose {first last : CodePoint} {inside : Text} (ascii : first.val < 0x80)
    (solidFirst : isBlank first = false) (solidLast : isBlank last = false)
    (noZero : ∀ c ∈ first :: (inside ++ [last]), c.val ≠ 0) :
    Token (first :: (inside ++ [last])) where
  noZero := noZero
  starts := ⟨first, _, rfl, solidFirst, ascii⟩
  stops := ⟨last, by rw [← List.cons_append, List.getLast?_concat], solidLast⟩

section

variable {ε α : Type}

def Takes (scan : Scan ε α) (s : Text) (x : α) : Prop :=
  ∀ rest, Ends rest → scan (s ++ rest) = .ok (x, rest)

def Local (scan : Scan ε α) : Prop :=
  ∀ ⦃t left : Text⦄ ⦃x : α⦄, scan t = .ok (x, left) →
    ∃ s, t = s ++ left ∧ Token s ∧ Takes scan s x

theorem Takes.whole {scan : Scan ε α} {s : Text} {x : α} (takes : Takes scan s x) :
    scan s = .ok (x, []) := by
  have taken := takes [] Ends.nil
  rwa [List.append_nil] at taken

/-- Whatever a local scan takes is a token. -/
theorem Local.token {scan : Scan ε α} (near : Local scan) {s : Text} {x : α}
    (takes : Takes scan s x) : Token s := by
  obtain ⟨s', same, token, -⟩ := near takes.whole
  rw [List.append_nil] at same
  exact same ▸ token

/-- No blank is skipped in front of what a local scan takes. -/
theorem Takes.scanned {scan : Scan ε α} {s : Text} {x : α} (takes : Takes scan s x)
    (near : Local scan) : scan (skipBlanks s) = .ok (x, []) := by
  have solid := (near.token takes).solid []
  rw [List.append_nil] at solid
  rw [skipBlanks_of_stops solid]
  exact takes.whole

end

/-! ## What is not taken -/

/-- The closing brackets. -/
def closers : List CodePoint := [.ofChar ']', .ofChar '\x7d']

/-- A text that a scan takes nothing off, whatever stands behind it. It begins like a value: with
no blank and no closing bracket. -/
structure Rejects {ε α : Type} (scan : Scan ε α) (s : Text) : Prop where
  starts : ∃ c rest, s = c :: rest ∧ isBlank c = false ∧ c ∉ closers
  never : ∀ rest read, scan (s ++ rest) ≠ .ok read

theorem Rejects.solid {ε α : Type} {scan : Scan ε α} {s : Text} (rejected : Rejects scan s)
    (rest : Text) : Stops isBlank (s ++ rest) := by
  obtain ⟨c, more, rfl, solid, -⟩ := rejected.starts
  exact stops_cons.2 solid

theorem Rejects.not_scanned {ε α : Type} {scan : Scan ε α} {s : Text} (rejected : Rejects scan s)
    {read : α × Text} : scan (skipBlanks s) ≠ .ok read := by
  have solid := rejected.solid []
  have never := rejected.never []
  rw [List.append_nil] at solid never
  rw [skipBlanks_of_stops solid]
  exact never read

end Json

end BlockWire
