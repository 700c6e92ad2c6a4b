/- # Decimal numerals

The longest numeral at the head of a text. A point counts only with a digit after
it and an exponent mark only with a digit behind its sign; otherwise the numeral
ends in front of them. -/
import BlockWire.Number.Binary64

namespace BlockWire

set_option autoImplicit false

namespace Text

/-- The number that decimal digits spell. -/
def digitsValue (digits : Text) : Nat := digits.foldl (fun n c => n * 10 + (c.val - 0x30)) 0

theorem digitsValue_ofNat (n : Nat) : digitsValue (ofNat n) = n := by
  calc digitsValue (ofNat n)
      = Nat.ofDigitChars 10 (Nat.toDigits 10 n) 0 := by
        simp [digitsValue, ofNat, List.foldl_map, Nat.ofDigitChars_eq_foldl, CodePoint.ofChar,
          Nat.mul_comm]
    _ = n := Nat.ofDigitChars_ten_toDigits

/-- A whole number is read and shown with at most this many digits. -/
def digitLimit : Nat := 4300

/-- What is said of a number beyond the limit; a number that is read shows how many
digits it has. -/
def overLimit (count : Option Nat) : Text :=
  let found : Text := match count with
    | some n => ": value has " ++ ofNat n ++ " digits"
    | none => ""
  "Exceeds the limit (" ++ ofNat digitLimit ++ " digits) for integer string conversion" ++ found ++
    "; use sys.set_int_max_str_digits() to increase the limit"

def leadingDigits (t : Text) : Text := t.takeWhile CodePoint.isDigit

end Text

structure Numeral where
  negative : Bool
  whole : Text
  fraction : Text
  exponent : Option (Bool × Text)

namespace Numeral

/-- One zero, or digits that do not begin with one. -/
def scanWhole? (t : Text) : Option (Text × Text) :=
  match t with
  | [] => none
  | c :: rest =>
      if c = '0' then some ([c], rest)
      else if c.isDigit then some (Text.leadingDigits t, t.dropWhile CodePoint.isDigit)
      else none

def scanFraction : Text → Text × Text
  | [] => ([], [])
  | c :: rest =>
      if c = '.' ∧ Text.leadingDigits rest ≠ [] then
        (Text.leadingDigits rest, rest.dropWhile CodePoint.isDigit)
      else ([], c :: rest)

def scanSign : Text → Bool × Text
  | [] => (false, [])
  | c :: rest =>
      if c = '-' then (true, rest)
      else if c = '+' then (false, rest)
      else (false, c :: rest)

def scanExponent : Text → Option (Bool × Text) × Text
  | [] => (none, [])
  | c :: rest =>
      let signed := scanSign rest
      let digits := Text.leadingDigits signed.2
      if (c = 'e' ∨ c = 'E') ∧ digits ≠ [] then
        (some (signed.1, digits), signed.2.dropWhile CodePoint.isDigit)
      else (none, c :: rest)

def scanMinus : Text → Bool × Text
  | [] => (false, [])
  | c :: rest => if c = '-' then (true, rest) else (false, c :: rest)

def scan? (t : Text) : Option (Numeral × Text) :=
  let minus := scanMinus t
  match scanWhole? minus.2 with
  | none => none
  | some (whole, rest) =>
      let fraction := scanFraction rest
      let exponent := scanExponent fraction.2
      some (⟨minus.1, whole, fraction.1, exponent.1⟩, exponent.2)

def isWhole (n : Numeral) : Bool := n.fraction.isEmpty && n.exponent.isNone

def signed (negative : Bool) (n : Nat) : Int := if negative then -(n : Int) else n

def toInt (n : Numeral) : Int := signed n.negative n.whole.digitsValue

def exponentValue (n : Numeral) : Int :=
  match n.exponent with
  | none => 0
  | some (true, digits) => -(digits.digitsValue : Int)
  | some (false, digits) => digits.digitsValue

def toBinary64 (n : Numeral) : Binary64 :=
  .ofDecimal n.negative (Text.digitsValue (n.whole ++ n.fraction))
    (n.exponentValue - n.fraction.length)

end Numeral

end BlockWire
