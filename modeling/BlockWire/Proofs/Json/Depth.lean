/- # How deep values nest

A level more changes nothing about a reading that has not run out of levels
(`scanValue_eq_of_le`). So what a text says does not depend on the limit as long as
its values nest within some number of levels that the limit allows. -/
import BlockWire.Proofs.Json.ValueText

namespace BlockWire.Json

set_option autoImplicit false

section

variable {value value' : Scan (Fault Text) Json}

theorem scanMember_error_or_eq
    (either : ∀ t, value t = .error .tooDeep ∨ value t = value' t) (t : Text) :
    scanMember value t = .error .tooDeep ∨ scanMember value t = scanMember value' t := by
  cases t with
  | nil => exact .inr rfl
  | cons c rest =>
      rw [scanMember, scanMember]
      split
      · cases scanString (c :: rest) with
        | error fault => exact .inr rfl
        | ok read =>
            simp only [bind, Except.bind]
            split
            · exact .inr rfl
            next d behind _ =>
              split
              · rcases either (skipBlanks behind) with failed | same
                · exact .inl (by rw [failed])
                · exact .inr (by rw [same])
              · exact .inr rfl
      · exact .inr rfl

theorem scanWith_error_or_eq
    (either : ∀ t, value t = .error .tooDeep ∨ value t = value' t) (t : Text) :
    scanWith (some value) t = .error .tooDeep ∨
      scanWith (some value) t = scanWith (some value') t := by
  cases t with
  | nil => exact .inr rfl
  | cons c rest =>
      by_cases quote : c = .ofChar '"'
      · subst quote
        exact .inr (by rw [scanWith_quote, scanWith_quote])
      by_cases brace : c = .ofChar '\x7b'
      · subst brace
        rw [scanWith_brace, scanWith_brace]
        rcases items_error_or_eq (scanMember_error_or_eq either) rest with failed | same
        · exact .inl (by rw [failed]; rfl)
        · exact .inr (by rw [same])
      by_cases bracket : c = .ofChar '['
      · subst bracket
        rw [scanWith_bracket, scanWith_bracket]
        rcases items_error_or_eq either rest with failed | same
        · exact .inl (by rw [failed]; rfl)
        · exact .inr (by rw [same])
      · rw [scanWith_atom quote brace bracket, scanWith_atom quote brace bracket]
        exact .inr rfl

theorem scanWith_none_error_or_eq (value : Scan (Fault Text) Json) (t : Text) :
    scanWith none t = .error .tooDeep ∨ scanWith none t = scanWith (some value) t := by
  cases t with
  | nil => exact .inr rfl
  | cons c rest =>
      by_cases quote : c = .ofChar '"'
      · subst quote
        exact .inr (by rw [scanWith_quote, scanWith_quote])
      by_cases opens : c = .ofChar '\x7b' ∨ c = .ofChar '['
      · exact .inl (scanWith_none opens rest)
      · rw [not_or] at opens
        rw [scanWith_atom quote opens.1 opens.2, scanWith_atom quote opens.1 opens.2]
        exact .inr rfl

end

theorem scanValue_error_or_succ (depth : Nat) (t : Text) :
    scanValue depth t = .error .tooDeep ∨ scanValue depth t = scanValue (depth + 1) t := by
  induction depth generalizing t with
  | zero => exact scanWith_none_error_or_eq _ t
  | succ depth ih => exact scanWith_error_or_eq ih t

/-- More levels change nothing for a text that has enough of them. -/
theorem scanValue_eq_of_le {depth depth' : Nat} (le : depth ≤ depth') {t : Text}
    (enough : scanValue depth t ≠ .error .tooDeep) : scanValue depth' t = scanValue depth t := by
  induction le with
  | refl => rfl
  | @step depth' le ih =>
      rcases scanValue_error_or_succ depth' t with failed | same
      · rw [ih] at failed
        exact absurd failed enough
      · rw [← same, ih]

theorem scanValue_mono {depth depth' : Nat} (le : depth ≤ depth') {t : Text} {read : Json × Text}
    (done : scanValue depth t = .ok read) : scanValue depth' t = .ok read := by
  rw [scanValue_eq_of_le le (by simp [done]), done]

/-- The values of a text nest at most so many levels: reading it does not run out of
them. -/
def NestsWithin (depth : Nat) (t : Text) : Prop :=
  scanValue depth (skipBlanks t) ≠ .error .tooDeep

theorem NestsWithin.mono {depth depth' : Nat} (le : depth ≤ depth') {t : Text}
    (nests : NestsWithin depth t) : NestsWithin depth' t := by
  unfold NestsWithin at nests ⊢
  rw [scanValue_eq_of_le le nests]
  exact nests

end BlockWire.Json
