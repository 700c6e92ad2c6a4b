/- # A value that does not match its type

A mismatch names what is wrong and the path that leads there from the value that
was to be read: field names and list indices, outermost first. `within` moves it
one level deeper, and its text is the path, joined by points, before the reason.

The text is composed when a mismatch is made, so none is made with an index that has too
many digits to be shown. What is read has no list that is long enough for such an index, but
a caller may give one: `make` and `moved` are what a caller gets. -/
import BlockWire.Json.Scanner
import BlockWire.Json.Printer

namespace BlockWire

set_option autoImplicit false

inductive Step where
  | field (name : Text)
  | index (i : Int)
deriving DecidableEq

def Step.text : Step → Text
  | .field name => name
  | .index i => Text.ofInt i

def Step.isShowable : Step → Bool
  | .field _ => true
  | .index i => i.natAbs < Nat.pow 10 Text.digitLimit

/-- What a type asks for and the value does not give. `stated` is a reason in the
caller's own words. -/
inductive Reason where
  | unreadable (fault : Json.LoadFault)
  | notHex (found : Json.Kind)
  | hexMark
  | hexOdd
  | hexDigits
  | notDecimal (found : Json)
  | tooManyDigits (count : Nat) (type : Text)
  | outOfRange (digits type : Text)
  | byteCount (expected found : Nat)
  | tooManyBytes (found limit : Nat)
  | bitsBeyond (length : Nat)
  | noDelimiter
  | tooManyBits (found limit : Nat)
  | notObject (found : Json.Kind)
  | unknownField (name : Text)
  | fieldMissing
  | notArray (found : Json.Kind)
  | elementCount (expected found : Nat)
  | tooManyElements (found limit : Nat)
  | tooManyEntries (found limit : Nat)
  | notBoolean (found : Json)
  | valueMissing
  | stated (message : Text)

def Reason.message : Reason → Text
  | .unreadable fault => "invalid JSON: " ++ fault.message
  | .notHex found => "expected hex string, got " ++ Text.ofString found.name
  | .hexMark => "hex string missing 0x prefix"
  | .hexOdd => "odd number of hex digits"
  | .hexDigits => "invalid hex digits"
  | .notDecimal found => "expected decimal string, got " ++ found.display
  | .tooManyDigits count type =>
      "value of " ++ Text.ofNat count ++ " digits out of range for " ++ type
  | .outOfRange digits type => "value " ++ digits ++ " out of range for " ++ type
  | .byteCount expected found =>
      "expected " ++ Text.ofNat expected ++ " bytes, got " ++ Text.ofNat found
  | .tooManyBytes found limit =>
      Text.ofNat found ++ " bytes exceeds limit " ++ Text.ofNat limit
  | .bitsBeyond length => "bits set beyond length " ++ Text.ofNat length
  | .noDelimiter => "bitlist missing delimiter bit"
  | .tooManyBits found limit =>
      "bitlist length " ++ Text.ofNat found ++ " exceeds limit " ++ Text.ofNat limit
  | .notObject found => "expected object, got " ++ Text.ofString found.name
  | .unknownField name => "unknown field " ++ Text.quoted name
  | .fieldMissing => "field missing"
  | .notArray found => "expected array, got " ++ Text.ofString found.name
  | .elementCount expected found =>
      "expected " ++ Text.ofNat expected ++ " elements, got " ++ Text.ofNat found
  | .tooManyElements found limit =>
      Text.ofNat found ++ " elements exceeds limit " ++ Text.ofNat limit
  | .tooManyEntries found limit =>
      Text.ofNat found ++ " entries exceeds limit " ++ Text.ofNat limit
  | .notBoolean found => "expected boolean, got " ++ found.display
  | .valueMissing => "value missing"
  | .stated message => message

/-- `absent` tells a value that is null or not there from one of the wrong shape. -/
structure Mismatch where
  absent : Bool
  reason : Reason
  path : List Step

namespace Mismatch

/-- Why a mismatch is not made. -/
inductive Unmade where
  | indexTooLong
deriving DecidableEq

def Unmade.message : Unmade → Text
  | .indexTooLong => Text.overLimit none

def make (absent : Bool) (reason : Reason) (path : List Step) : Except Unmade Mismatch :=
  if path.all Step.isShowable then .ok ⟨absent, reason, path⟩ else .error .indexTooLong

def invalid (reason : Reason) : Mismatch := ⟨false, reason, []⟩

def missing (reason : Reason) (path : List Step) : Mismatch := ⟨true, reason, path⟩

def within (m : Mismatch) (step : Step) : Mismatch := { m with path := step :: m.path }

/-- One level deeper, by any step. -/
def moved (m : Mismatch) (step : Step) : Except Unmade Mismatch :=
  make m.absent m.reason (step :: m.path)

/-- The path without its first `skip` steps; a negative `skip` counts the steps that
stay. -/
def pathFrom (skip : Int) (path : List Step) : List Step :=
  if skip < 0 then path.drop (path.length - skip.natAbs) else path.drop skip.toNat

def render (m : Mismatch) (skip : Int) : Text :=
  match pathFrom skip m.path with
  | [] => m.reason.message
  | steps => Text.join "." (steps.map Step.text) ++ ": " ++ m.reason.message

def message (m : Mismatch) : Text := m.render 0

end Mismatch

/-- Why a value cannot be read: it does not match, or its type has no JSON shape. -/
inductive Refusal where
  | mismatch (m : Mismatch)
  | unsupported (type : Text)

namespace Refusal

def invalid (reason : Reason) : Refusal := .mismatch (.invalid reason)

def within (step : Step) : Refusal → Refusal
  | .mismatch m => .mismatch (m.within step)
  | .unsupported type => .unsupported type

end Refusal

end BlockWire
