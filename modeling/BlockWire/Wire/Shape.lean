/- # The JSON shape of a value

Numbers are decimal strings, bytes and bitfields hex strings, sequences arrays, and
records objects with their fields in order.

Reading follows the type and is strict: every field of a container is there and no
other, fixed sizes are exact, limits hold. It stops at the first mismatch, in the
order of the type's fields and of the array's entries, and the path of the mismatch
leads to where it stopped.

A null is missing whatever the type, so that is settled first. -/
import BlockWire.Ssz.Bits
import BlockWire.Ssz.Value
import BlockWire.Wire.Mismatch

namespace BlockWire.Wire

set_option autoImplicit false

/-! ## Writing -/

/-- What every hex string begins with. -/
def hexMark : Text := "0x"

def hexText (octets : Octets) : Json := .str (hexMark ++ Hex.encode octets)

mutual

def toJson : Value → Json
  | .uint n => .str (Text.ofNat n)
  | .boolean b => .bool b
  | .bytes octets => hexText octets
  | .bitvector bits => hexText (Bits.encodeVector bits)
  | .bitlist bits => hexText (Bits.encodeList bits)
  | .seq items => .arr (itemsToJson items)
  | .record fields => .obj (fieldsToJson fields)

def itemsToJson : List Value → List Json
  | [] => []
  | item :: rest => toJson item :: itemsToJson rest

def fieldsToJson : List (Text × Value) → List (Text × Json)
  | [] => []
  | (name, value) :: rest => (name, toJson value) :: fieldsToJson rest

end

/-! ## Strings -/

/-- The octets of a hex string. -/
def fromHex : Json → Except Refusal Octets
  | .str t =>
      match Text.after? hexMark t with
      | none => .error (.invalid .hexMark)
      | some digits =>
          if digits.length % 2 ≠ 0 then .error (.invalid .hexOdd)
          else
            match Hex.decode digits with
            | some octets => .ok octets
            | none => .error (.invalid .hexDigits)
  | j => .error (.invalid (.notHex j.kind))

def exactBytes (length : Nat) (j : Json) : Except Refusal Octets := do
  let octets ← fromHex j
  if octets.length ≠ length then .error (.invalid (.byteCount length octets.length))
  else .ok octets

def bytesWithin (limit : Nat) (j : Json) : Except Refusal Octets := do
  let octets ← fromHex j
  if limit < octets.length then .error (.invalid (.tooManyBytes octets.length limit))
  else .ok octets

def isDecimal (t : Text) : Bool := !t.isEmpty && t.all CodePoint.isDigit

/-- Decimal digits without leading zeros, one zero staying for zero. -/
def significant (digits : Text) : Text :=
  match digits.dropWhile (· == .ofChar '0') with
  | [] => "0"
  | rest => rest

/-- The digits of the greatest number of so many bits. -/
def digitBound (bits : Nat) : Nat := (Text.ofNat (Nat.pow 2 bits - 1)).length

/-- A number below `2 ^ bits`. Too many digits settle it without reading them. -/
def uintFromJson (bits : Nat) : Json → Except Refusal Nat
  | .str t =>
      if isDecimal t then
        let digits := significant t
        if digitBound bits < digits.length then
          .error (.invalid (.tooManyDigits digits.length (Ty.uint bits).name))
        else if Nat.pow 2 bits ≤ Text.digitsValue digits then
          .error (.invalid (.outOfRange digits (Ty.uint bits).name))
        else .ok (Text.digitsValue digits)
      else .error (.invalid (.notDecimal (.str t)))
  | j => .error (.invalid (.notDecimal j))

def bitvectorFromJson (length : Nat) (j : Json) : Except Refusal (List Bool) := do
  let octets ← exactBytes (Bits.octetCount length) j
  if Bits.holdsBeyond length octets then .error (.invalid (.bitsBeyond length))
  else .ok (Bits.decode length octets)

def bitlistFromJson (limit : Nat) (j : Json) : Except Refusal (List Bool) := do
  let octets ← fromHex j
  match Bits.listLength? octets with
  | none => .error (.invalid .noDelimiter)
  | some length =>
      if limit < length then .error (.invalid (.tooManyBits length limit))
      else .ok (Bits.decode length octets)

/-! ## Arrays and objects -/

def arrayFromJson : Json → Except Refusal (List Json)
  | .arr items => .ok items
  | j => .error (.invalid (.notArray j.kind))

def objectFromJson : Json → Except Refusal (Keyed Json)
  | .obj members => .ok members
  | j => .error (.invalid (.notObject j.kind))

/-- Reads the entries in order; a mismatch lies within the index of its entry. -/
def entriesFrom {α : Type} (read : Json → Except Refusal α) :
    Nat → List Json → Except Refusal (List α)
  | _, [] => .ok []
  | i, j :: rest => do
      let entry ← (read j).mapError (.within (.index i))
      let entries ← entriesFrom read (i + 1) rest
      .ok (entry :: entries)

def entries {α : Type} (read : Json → Except Refusal α) (items : List Json) :
    Except Refusal (List α) := entriesFrom read 0 items

def exactEntries {α : Type} (length : Nat) (read : Json → Except Refusal α) (j : Json) :
    Except Refusal (List α) := do
  let items ← arrayFromJson j
  if items.length ≠ length then .error (.invalid (.elementCount length items.length))
  else entries read items

def entriesWithin {α : Type} (limit : Nat) (read : Json → Except Refusal α) (j : Json) :
    Except Refusal (List α) := do
  let items ← arrayFromJson j
  if limit < items.length then .error (.invalid (.tooManyElements items.length limit))
  else entries read items

def boolFromJson : Json → Except Refusal Bool
  | .bool b => .ok b
  | j => .error (.invalid (.notBoolean j))

/-- The members of an object all of whose keys are declared. -/
def declaredMembers (declared : List Text) (j : Json) : Except Refusal (Keyed Json) := do
  let members ← objectFromJson j
  match Keyed.firstUnknown? declared members with
  | some key => .error (.invalid (.unknownField key))
  | none => .ok members

/-- A null is missing; anything else is for `read`. -/
def present {α : Type} (read : Json → Except Refusal α) : Json → Except Refusal α
  | .null => .error (.mismatch (.missing .valueMissing []))
  | j => read j

/-! ## Values -/

mutual

def fromJson : Ty → Json → Except Refusal Value
  | .uint bits => present fun j => .uint <$> uintFromJson bits j
  | .boolean => present fun j => .boolean <$> boolFromJson j
  | .byteVector length => present fun j => .bytes <$> exactBytes length j
  | .byteList limit => present fun j => .bytes <$> bytesWithin limit j
  | .bitvector length => present fun j => .bitvector <$> bitvectorFromJson length j
  | .bitlist limit => present fun j => .bitlist <$> bitlistFromJson limit j
  | .vector element length =>
      present fun j =>
        if element.isByte then .bytes <$> exactBytes length j
        else .seq <$> exactEntries length (fromJson element) j
  | .list element limit =>
      present fun j =>
        if element.isByte then .bytes <$> bytesWithin limit j
        else .seq <$> entriesWithin limit (fromJson element) j
  | .container _ fields =>
      present fun j => do
        let members ← declaredMembers (fields.map Prod.fst) j
        .record <$> fieldsFromJson fields members
  | .shapeless name => present fun _ => .error (.unsupported name)

/-- Reads the fields in order; a mismatch lies within the name of its field. -/
def fieldsFromJson : List (Text × Ty) → Keyed Json → Except Refusal (List (Text × Value))
  | [], _ => .ok []
  | (name, type) :: rest, members =>
      match Keyed.get? members name with
      | none => .error (.mismatch (.missing .fieldMissing [.field name]))
      | some j => do
          let value ← (fromJson type j).mapError (.within (.field name))
          let values ← fieldsFromJson rest members
          .ok ((name, value) :: values)

end

end BlockWire.Wire
