/- # Graffiti

The one field whose spelling counts: a quoted hex string of exactly 32 octets, with
no blanks around it and no escape inside. Where more than one thing is wrong the
beginning is named first, then the end, then the length, then the digits. -/
import BlockWire.Json.Printer
import BlockWire.Text.Quoted

namespace BlockWire

set_option autoImplicit false

inductive GraffitiFault where
  | start
  | ending
  | length
  | digits (shown : Option Text)
deriving DecidableEq

def GraffitiFault.message : GraffitiFault → Text
  | .start => "invalid prefix"
  | .ending => "invalid suffix"
  | .length => "incorrect length"
  | .digits none => "invalid hex"
  | .digits (some shown) => "invalid hex digits " ++ shown

namespace Graffiti

/-- Octets in a graffiti value. -/
def size : Nat := 32

def opening : Octets := Utf8.encode "\"0x"

def closing : Octets := Utf8.encode "\""

/-- Octets of the written form. -/
def writtenSize : Nat := opening.length + 2 * size + closing.length

/-- Octets taken for the code points of their numbers. -/
def codes (octets : Octets) : Text := octets.map fun b => .ofNat b.toNat

def decode (raw : Octets) : Except GraffitiFault Octets :=
  if !opening.isPrefixOf raw then .error .start
  else if !closing.isSuffixOf raw then .error .ending
  else if raw.length ≠ writtenSize then .error .length
  else
    let digits := (raw.drop opening.length).take (2 * size)
    match Hex.decode (codes digits) with
    | none => .error (.digits (some (Text.quoted (Utf8.decodeLossy digits))))
    | some octets => if octets.length ≠ size then .error .length else .ok octets

def encode (octets : Octets) : Octets :=
  Utf8.encode (Json.printString ("0x" ++ Hex.encode octets))

end Graffiti

end BlockWire
