/- # Octets in base 64

Four characters to three octets. What is no character of the alphabet is passed
over; padding ends the text once it fills up a group that has two characters at
least. A group left open is refused. -/
import BlockWire.Text.CodePoint

namespace BlockWire.Base64

set_option autoImplicit false

def digit? (c : CodePoint) : Option Nat :=
  if 0x41 ≤ c.val ∧ c.val ≤ 0x5A then some (c.val - 0x41)
  else if 0x61 ≤ c.val ∧ c.val ≤ 0x7A then some (c.val - 0x61 + 26)
  else if 0x30 ≤ c.val ∧ c.val ≤ 0x39 then some (c.val - 0x30 + 52)
  else if c = '+' then some 62
  else if c = '/' then some 63
  else none

/-- The octets of a group as far as it has got: none, one and two behind two, three
and four characters. -/
def octetsOf : List Nat → Octets
  | [a, b] => [.ofNat (a * 4 + b / 16)]
  | [a, b, c] => [.ofNat (a * 4 + b / 16), .ofNat (b % 16 * 16 + c / 4)]
  | [a, b, c, d] =>
      [.ofNat (a * 4 + b / 16), .ofNat (b % 16 * 16 + c / 4), .ofNat (c % 4 * 64 + d)]
  | _ => []

/-- `group` holds the characters of the group that is open, `pads` the padding behind
the last of them. -/
def decodeFrom (group : List Nat) (pads : Nat) : Text → Option Octets
  | [] => if group.isEmpty then some [] else none
  | c :: rest =>
      if c = '=' then
        if 2 ≤ group.length then
          if 4 ≤ group.length + pads + 1 then some (octetsOf group)
          else decodeFrom group (pads + 1) rest
        else decodeFrom group pads rest
      else
        match digit? c with
        | none => decodeFrom group pads rest
        | some n =>
            if group.length = 3 then (decodeFrom [] 0 rest).map (octetsOf (group ++ [n]) ++ ·)
            else decodeFrom (group ++ [n]) 0 rest

def decode (t : Text) : Option Octets := decodeFrom [] 0 t

end BlockWire.Base64
