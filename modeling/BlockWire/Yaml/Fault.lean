/- # Faults of a YAML document

A document may be no YAML at all, an escape in it may name no code point, and a scalar
in it may not denote what its tag asks for.

Nodes are read level by level from the root, so of several faults the one nearest to the
root counts, and of those as near the one that stands first. -/
import BlockWire.Config.Calendar
import BlockWire.Number.Reading

namespace BlockWire.Yaml

set_option autoImplicit false

inductive Fault where
  | malformed
  | escape (n : Nat)
  | number (fault : Numeral.Fault)
  | noNumber
  | unitTooLarge
  | notTruth (found : Text)
  | notTimestamp
  | manifoldTimestamp
  | calendar (problem : CalendarProblem)
deriving DecidableEq

/-- The numbers that an escape can hold without overflowing. -/
def escapeBound : Nat := 0x80000000

def Fault.message : Fault → Text
  | .malformed => "malformed"
  | .escape n =>
      if n < escapeBound then "chr() arg not in range(0x110000)"
      else "Python int too large to convert to C int"
  | .number fault => fault.message
  | .noNumber => "string index out of range"
  | .unitTooLarge => "int too large to convert to float"
  | .notTruth found => Text.quoted found
  | .notTimestamp => "'NoneType' object has no attribute 'groupdict'"
  | .manifoldTimestamp => "expected string or bytes-like object, got 'list'"
  | .calendar problem => problem.message

/-! ## The fault that counts -/

/-- What is found in a node: its value, or the fault that counts and how far below the node
it was met. -/
inductive Found (α : Type) where
  | value (a : α)
  | fault (depth : Nat) (fault : Fault)

namespace Found

variable {α β γ : Type}

def ofExcept : Except Fault α → Found α
  | .ok a => .value a
  | .error f => .fault 0 f

def outcome : Found α → Except Fault α
  | .value a => .ok a
  | .fault _ f => .error f

def map (f : α → β) : Found α → Found β
  | .value a => .value (f a)
  | .fault depth found => .fault depth found

/-- What is found in a node, as seen from the one above. -/
def below : Found α → Found α
  | .value a => .value a
  | .fault depth f => .fault (depth + 1) f

/-- Two that stand side by side, the first in front. -/
def both (f : α → β → γ) : Found α → Found β → Found γ
  | .value a, .value b => .value (f a b)
  | .value _, .fault depth g => .fault depth g
  | .fault depth g, .value _ => .fault depth g
  | .fault depth g, .fault depth' g' => if depth' < depth then .fault depth' g' else .fault depth g

end Found

end BlockWire.Yaml
