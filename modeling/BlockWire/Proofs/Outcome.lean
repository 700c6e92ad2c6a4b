/- # Outcomes of steps that can fail

What a chain of steps gave says what each step gave: `bind_eq_ok` and `map_eq_ok`
take a success apart, `bind_eq_error` a failure, and `guard_eq_ok` a check made on
the way. A report has the outcome of its steps (`Report.outcome_bind`), however they are
grouped. -/
import BlockWire.Log

namespace BlockWire

set_option autoImplicit false

section

variable {ε ε' α β : Type}

theorem exists_of_isOk {x : Except ε α} (isOk : x.isOk = true) : ∃ a, x = .ok a := by
  cases x with
  | error e => cases isOk
  | ok a => exact ⟨a, rfl⟩

theorem bind_eq_ok {x : Except ε α} {f : α → Except ε β} {b : β} :
    (x >>= f) = .ok b ↔ ∃ a, x = .ok a ∧ f a = .ok b := by
  cases x <;> simp [bind, Except.bind]

theorem bind_eq_error {x : Except ε α} {f : α → Except ε β} {e : ε} :
    (x >>= f) = .error e ↔ x = .error e ∨ ∃ a, x = .ok a ∧ f a = .error e := by
  cases x <;> simp [bind, Except.bind]

theorem map_eq_ok {x : Except ε α} {f : α → β} {b : β} :
    (f <$> x) = .ok b ↔ ∃ a, x = .ok a ∧ f a = b := by
  cases x <;> simp [Functor.map, Except.map]

theorem map_eq_error {x : Except ε α} {f : α → β} {e : ε} :
    (f <$> x) = .error e ↔ x = .error e := by
  cases x <;> simp [Functor.map, Except.map]

theorem guard_eq_ok {bad : Prop} [Decidable bad] {e : ε} {x : Except ε α} {a : α} :
    (if bad then .error e else x) = .ok a ↔ ¬ bad ∧ x = .ok a := by
  by_cases h : bad <;> simp [h]

theorem guard_eq_error {bad : Prop} [Decidable bad] {e e' : ε} {x : Except ε α} :
    (if bad then .error e else x) = .error e' ↔ bad ∧ e' = e ∨ ¬ bad ∧ x = .error e' := by
  by_cases h : bad <;> simp [h, eq_comm]

theorem mapError_eq_ok {x : Except ε α} {f : ε → ε'} {a : α} :
    x.mapError f = .ok a ↔ x = .ok a := by
  cases x with
  | error cause =>
      show Except.error (f cause) = .ok a ↔ _
      simp
  | ok b =>
      show Except.ok b = .ok a ↔ _
      simp

theorem mapError_eq_error {x : Except ε α} {f : ε → ε'} {e : ε'} :
    x.mapError f = .error e ↔ ∃ cause, x = .error cause ∧ f cause = e := by
  cases x with
  | error cause =>
      show Except.error (f cause) = .error e ↔ _
      simp
  | ok a =>
      show Except.ok a = .error e ↔ _
      simp

namespace Report

theorem ok_bind (log : List Record) (a : α) (next : α → Report ε β) :
    (⟨log, .ok a⟩ : Report ε α) >>= next = ⟨log ++ (next a).log, (next a).outcome⟩ := rfl

theorem error_bind (log : List Record) (e : ε) (next : α → Report ε β) :
    (⟨log, .error e⟩ : Report ε α) >>= next = ⟨log, .error e⟩ := rfl

theorem outcome_bind {report : Report ε α} {next : α → Report ε β} :
    (report >>= next).outcome = report.outcome >>= fun a => (next a).outcome := by
  change (Report.bind report next).outcome = _
  unfold Report.bind
  cases report.outcome <;> rfl

/-- Steps can be grouped at will: what is logged is put together in one order. -/
instance : LawfulMonad (Report ε) := by
  refine LawfulMonad.mk' _ ?_ ?_ ?_
  · intro α report
    obtain ⟨log, outcome⟩ := report
    cases outcome with
    | error e => rfl
    | ok a =>
        change (⟨log ++ [], .ok a⟩ : Report ε α) = ⟨log, .ok a⟩
        rw [List.append_nil]
  · intro α β a next
    rfl
  · intro α β γ report next last
    obtain ⟨log, outcome⟩ := report
    cases outcome with
    | error e => rfl
    | ok a =>
        change Report.bind (Report.bind ⟨log, .ok a⟩ next) last =
          Report.bind ⟨log, .ok a⟩ fun a => Report.bind (next a) last
        unfold Report.bind
        cases read : (next a).outcome with
        | error e => simp only [read]
        | ok b => simp only [read, List.append_assoc]

end Report

end

end BlockWire
