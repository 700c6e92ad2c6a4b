/- # How reading can fail

Each failure is of a kind, and kinds form a tree: `Kind.ancestors` lists what a kind
also is, nearest first. A failure of a body's field keeps the failure it was caused
by; `blame` puts a mismatch down to a field, with the index of the entry when the
path of the mismatch begins with one. -/
import BlockWire.Body.Graffiti
import BlockWire.RawFields
import BlockWire.Log
import BlockWire.Wire.Codec

namespace BlockWire

set_option autoImplicit false

inductive Kind where
  | codec
  | splitting
  | malformedObject
  | unknownField
  | invalidEncoding
  | missingValue
  | graffiti
  | graffitiStart
  | graffitiEnding
  | graffitiLength
  | graffitiDigits
  | field
  | missingEntry
  | unsupportedType
  | unencodable
deriving DecidableEq

namespace Kind

def parent? : Kind → Option Kind
  | .codec => none
  | .splitting => some .codec
  | .malformedObject => some .splitting
  | .unknownField => some .splitting
  | .invalidEncoding => some .codec
  | .missingValue => some .invalidEncoding
  | .graffiti => some .codec
  | .graffitiStart => some .graffiti
  | .graffitiEnding => some .graffiti
  | .graffitiLength => some .graffiti
  | .graffitiDigits => some .graffiti
  | .field => some .codec
  | .missingEntry => some .field
  | .unsupportedType => none
  | .unencodable => none

/-- No kind has more than two others above it. -/
def ancestors (kind : Kind) : List Kind :=
  match kind.parent? with
  | none => []
  | some first =>
      match first.parent? with
      | none => [first]
      | some second => [first, second]

end Kind

/-- `stated` is a failure of some kind in the caller's own words. -/
inductive Failure where
  | malformed (why : RawFields.Malformed Json.Place)
  | unencodable (fault : Encoding.Unencodable)
  | unknownField (name : Text)
  | mismatch (m : Mismatch)
  | graffiti (fault : GraffitiFault)
  | field (name : Text) (cause : Option Failure) (index : Option Int)
  | missingEntry (field : Text) (index : Int)
  | unsupported (type : Text)
  | notFixedBytes (type : Text)
  | stated (kind : Kind) (message : Text)

def GraffitiFault.kind : GraffitiFault → Kind
  | .start => .graffitiStart
  | .ending => .graffitiEnding
  | .length => .graffitiLength
  | .digits _ => .graffitiDigits

namespace Failure

def kind : Failure → Kind
  | .malformed _ => .malformedObject
  | .unencodable _ => .unencodable
  | .unknownField _ => .unknownField
  | .mismatch m => if m.absent then .missingValue else .invalidEncoding
  | .graffiti fault => fault.kind
  | .field _ _ _ => .field
  | .missingEntry _ _ => .missingEntry
  | .unsupported _ => .unsupportedType
  | .notFixedBytes _ => .unsupportedType
  | .stated kind _ => kind

/-- What stands for a cause that there is none of. -/
def noCause : Text := "None"

/-- A cause already placed by `index` does not show that index again. -/
def unplaced (index : Int) (m : Mismatch) : Text :=
  if m.path.head? = some (.index index) then m.render 1 else m.message

def message : Failure → Text
  | .malformed why => why.message
  | .unencodable fault => fault.message
  | .unknownField name => "unknown field " ++ Text.quoted name
  | .mismatch m => m.message
  | .graffiti fault => fault.message
  | .field name none none => name ++ ": " ++ noCause
  | .field name (some cause) none => name ++ ": " ++ cause.message
  | .field name none (some i) => name ++ "[" ++ Text.ofInt i ++ "]: " ++ noCause
  | .field name (some (.mismatch m)) (some i) =>
      name ++ "[" ++ Text.ofInt i ++ "]: " ++ unplaced i m
  | .field name (some cause) (some i) => name ++ "[" ++ Text.ofInt i ++ "]: " ++ cause.message
  | .missingEntry name i => name ++ ": entry " ++ Text.ofInt i ++ " missing"
  | .unsupported type => "unsupported view type " ++ type
  | .notFixedBytes type => type ++ " is not a fixed-size byte vector"
  | .stated _ message => message

/-- A failure of a kind in the caller's words, or in the kind's own. Of the graffiti
faults only `digits` leaves room for words. -/
def worded? : Kind → Option Text → Option Failure
  | .graffitiStart, none => some (.graffiti .start)
  | .graffitiEnding, none => some (.graffiti .ending)
  | .graffitiLength, none => some (.graffiti .length)
  | .graffitiDigits, none => some (.graffiti (.digits none))
  | .graffitiStart, some _ => none
  | .graffitiEnding, some _ => none
  | .graffitiLength, some _ => none
  | kind, words => some (.stated kind (words.getD []))

def ofUnsplit : RawFields.Unsplit Json.Place → Failure
  | .malformed why => .malformed why
  | .unencodable fault => .unencodable fault

def ofSplit : RawFields.Fault → Failure
  | .unsplit why => ofUnsplit why
  | .unknownField name => .unknownField name

def ofRefusal : Refusal → Failure
  | .mismatch m => .mismatch m
  | .unsupported type => .unsupported type

/-- The index that a path begins with. -/
def leadingIndex? : List Step → Option Int
  | .index i :: _ => some i
  | _ => none

/-- A refusal while a field was read. -/
def blame (name : Text) : Refusal → Failure
  | .mismatch m => .field name (some (.mismatch m)) (leadingIndex? m.path)
  | .unsupported type => .unsupported type

def rejected (name why : Text) : Record :=
  ⟨.debug, .body, "Block body field " ++ name ++ " rejected: " ++ why⟩

/-- What the rejection of a field logs. -/
def record? : Failure → Option Record
  | .field name none _ => some (rejected name noCause)
  | .field name (some cause) _ => some (rejected name cause.message)
  | .missingEntry name i => some (rejected name ("entry " ++ Text.ofInt i ++ " is null"))
  | _ => none

end Failure

end BlockWire
