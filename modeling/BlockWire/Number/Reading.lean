/- # Reading numbers

A number may have blanks around it and a sign in front, and its digits may be those of
any script. A whole number in base two, eight or sixteen may carry the mark of its base.
A number with a point needs digits on one side of it; infinity and what is no number at
all are words, in any case.

The decimal digits of Unicode 14.0 stand in rows of ten, from each script's zero to its
nine. `plain` spells a text so that only ASCII counts: each digit as the ASCII digit of its
value, each blank as a space, and anything else past ASCII as a question mark.

What cannot be read is shown as it stood, a whole number no longer than `shownLength`. -/
import BlockWire.Number.Numeral
import BlockWire.Text.Casing
import BlockWire.Text.Quoted

namespace BlockWire

set_option autoImplicit false

namespace CodePoint

/-- The zeros past ASCII. -/
def zeros : List Nat :=
  [
    0x660, 0x6F0, 0x7C0, 0x966, 0x9E6, 0xA66, 0xAE6, 0xB66, 0xBE6, 0xC66, 0xCE6, 0xD66, 0xDE6,
    0xE50, 0xED0, 0xF20, 0x1040, 0x1090, 0x17E0, 0x1810, 0x1946, 0x19D0, 0x1A80, 0x1A90, 0x1B50,
    0x1BB0, 0x1C40, 0x1C50, 0xA620, 0xA8D0, 0xA900, 0xA9D0, 0xA9F0, 0xAA50, 0xABF0, 0xFF10,
    0x104A0, 0x10D30, 0x11066, 0x110F0, 0x11136, 0x111D0, 0x112F0, 0x11450, 0x114D0, 0x11650,
    0x116C0, 0x11730, 0x118E0, 0x11950, 0x11C50, 0x11D50, 0x11DA0, 0x16A60, 0x16AC0, 0x16B50,
    0x1D7CE, 0x1D7D8, 0x1D7E2, 0x1D7EC, 0x1D7F6, 0x1E140, 0x1E2F0, 0x1E950, 0x1FBF0
  ]

/-- The blanks past ASCII. -/
def wideBlanks : List Nat :=
  [
    0x85, 0xA0, 0x1680, 0x2000, 0x2001, 0x2002, 0x2003, 0x2004, 0x2005, 0x2006, 0x2007, 0x2008,
    0x2009, 0x200A, 0x2028, 0x2029, 0x202F, 0x205F, 0x3000
  ]

def plain (c : CodePoint) : CodePoint :=
  if c.val < 0x80 then c
  else if wideBlanks.contains c.val then ' '
  else
    match zeros.find? fun first => first ≤ c.val && c.val < first + 10 with
    | some first => .ofNat (0x30 + (c.val - first))
    | none => '?'

/-- The ASCII blanks: tab, line feed, the two tabs behind it, carriage return, space. -/
def isAsciiBlank (c : CodePoint) : Bool := c = ' ' || (9 ≤ c.val && c.val ≤ 13)

end CodePoint

def Text.plain (t : Text) : Text := t.map CodePoint.plain

namespace Numeral

/-- Why a text is no number. -/
inductive Fault where
  | notWhole (base : Nat) (found : Text)
  | tooManyDigits (count : Nat)
  | notPointed (found : Text)
deriving DecidableEq

def shownLength : Nat := 200

def Fault.message : Fault → Text
  | .notWhole base found =>
      "invalid literal for int() with base " ++ Text.ofNat base ++ ": " ++
        (Text.quoted found).take shownLength
  | .tooManyDigits count => Text.overLimit (some count)
  | .notPointed found => "could not convert string to float: " ++ Text.quoted found

def skipBlanks (t : Text) : Text := t.dropWhile CodePoint.isAsciiBlank

/-! ## Whole numbers -/

def isDigitOf (base : Nat) (c : CodePoint) : Bool := (Hex.digit? c).any (· < base)

/-- The number that digits of a base spell. -/
def valueIn (base : Nat) (digits : Text) : Nat :=
  digits.foldl (fun n c => n * base + (Hex.digit? c).getD 0) 0

/-- The marks of a base, small and capital. -/
def marks (base : Nat) : List Text :=
  if base = 2 then ["0b", "0B"]
  else if base = 8 then ["0o", "0O"]
  else if base = 16 then ["0x", "0X"]
  else []

def skipMark (base : Nat) (t : Text) : Text :=
  ((marks base).findSome? fun mark => Text.after? mark t).getD t

/-- Only numbers in base ten have a limit, and it is looked at before what follows the
digits. -/
def readWhole (base : Nat) (t : Text) : Except Fault Int :=
  let sign := scanSign (skipBlanks t.plain)
  let body := skipMark base sign.2
  let digits := body.takeWhile (isDigitOf base)
  let behind := skipBlanks (body.drop digits.length)
  if base = 10 ∧ Text.digitLimit < digits.length then .error (.tooManyDigits digits.length)
  else if digits.isEmpty || !behind.isEmpty then .error (.notWhole base t)
  else .ok (signed sign.1 (valueIn base digits))

/-! ## Numbers with a point -/

/-- Digits with a point among them or none, and an exponent or none, up to the end. -/
def wholly? (negative : Bool) (t : Text) : Option Numeral :=
  let whole := Text.leadingDigits t
  let behind := t.drop whole.length
  let point := Text.after? "." behind
  let fraction := Text.leadingDigits (point.getD [])
  let exponent := scanExponent ((point.getD behind).drop fraction.length)
  if (whole.isEmpty && fraction.isEmpty) || !exponent.2.isEmpty then none
  else some ⟨negative, whole, fraction, exponent.1⟩

def readPointed (t : Text) : Except Fault Binary64 :=
  let sign := scanSign (skipBlanks (skipBlanks t.plain).reverse).reverse
  let word := sign.2.toLower
  if word = "inf" ∨ word = "infinity" then .ok (.infinite sign.1)
  else if word = "nan" then .ok .nan
  else
    match wholly? sign.1 sign.2 with
    | some numeral => .ok numeral.toBinary64
    | none => .error (.notPointed t)

end Numeral

end BlockWire
