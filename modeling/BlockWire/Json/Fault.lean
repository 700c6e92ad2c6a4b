/- # What a text can have that JSON does not

A scanner works on what is left of the text, so the place of a fault is first what
was left there; `Place.of` turns it into an offset, a line and a column. -/
import BlockWire.Number.Numeral
import BlockWire.Text.Encoding

namespace BlockWire.Json

set_option autoImplicit false

/-- What was expected, or what is wrong with what stands there. -/
inductive Problem where
  | value
  | propertyName
  | colon
  | comma
  | unterminated
  | control
  | escape
  | unicodeEscape
  | extra
  | mark
deriving DecidableEq

def Problem.message : Problem → String
  | .value => "Expecting value"
  | .propertyName => "Expecting property name enclosed in double quotes"
  | .colon => "Expecting ':' delimiter"
  | .comma => "Expecting ',' delimiter"
  | .unterminated => "Unterminated string starting at"
  | .control => "Invalid control character at"
  | .escape => "Invalid \\escape"
  | .unicodeEscape => "Invalid \\uXXXX escape"
  | .extra => "Extra data"
  | .mark => "Unexpected UTF-8 BOM (decode using utf-8-sig)"

/-- Offsets count from zero, lines and columns from one. -/
structure Place where
  offset : Nat
  line : Nat
  column : Nat
deriving DecidableEq

/-- The place in `whole` of its suffix `rest`. A line ends at a line feed. -/
def Place.of (whole rest : Text) : Place :=
  let offset := whole.length - rest.length
  let before := whole.take offset
  ⟨offset, before.count (.ofChar '\n') + 1,
    (before.reverse.takeWhile fun c => c != .ofChar '\n').length + 1⟩

inductive Fault (σ : Type) where
  | located (problem : Problem) (place : σ)
  | constant (name : Text)
  | digits (count : Nat)
  | tooDeep
deriving DecidableEq

def Fault.map {σ τ : Type} (f : σ → τ) : Fault σ → Fault τ
  | .located problem place => .located problem (f place)
  | .constant name => .constant name
  | .digits count => .digits count
  | .tooDeep => .tooDeep

/-- A value may nest this many arrays and objects. -/
def depthLimit : Nat := 1000

def Fault.message : Fault Place → Text
  | .located problem place =>
      problem.message ++ ": line " ++ Text.ofNat place.line ++ " column " ++
        Text.ofNat place.column ++ " (char " ++ Text.ofNat place.offset ++ ")"
  | .constant name => "invalid constant " ++ name
  | .digits count => Text.overLimit (some count)
  | .tooDeep => "nesting too deep"

end BlockWire.Json
