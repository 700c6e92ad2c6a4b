/- # What is reported beside a result

A report is the outcome of a step and the records it logged. Steps that follow one
another log in their order, and a failure keeps what was logged before it. -/
import BlockWire.Text.CodePoint

namespace BlockWire

set_option autoImplicit false

inductive Severity where
  | debug
  | warning
deriving DecidableEq

/-- The part of the library that a record comes from. -/
inductive Channel where
  | body
  | config
deriving DecidableEq

structure Record where
  severity : Severity
  channel : Channel
  message : Text
deriving DecidableEq

structure Report (ε α : Type) where
  log : List Record
  outcome : Except ε α

namespace Report

variable {ε α β : Type}

def ofExcept (outcome : Except ε α) : Report ε α := ⟨[], outcome⟩

def record (r : Record) : Report ε PUnit := ⟨[r], .ok ⟨⟩⟩

def bind (report : Report ε α) (next : α → Report ε β) : Report ε β :=
  match report.outcome with
  | .error e => ⟨report.log, .error e⟩
  | .ok a => ⟨report.log ++ (next a).log, (next a).outcome⟩

instance : Monad (Report ε) where
  pure a := ⟨[], .ok a⟩
  bind := bind

end Report

end BlockWire
