/- # The raw fields of an object

`split` takes an object apart without reading its values: each field keeps the
octets that its value has in the document, for whoever knows its type to read. The
values are scanned all the same, since only the scanner knows where one ends. A document
that comes as text may hold surrogates; a value with one has no octets, and splitting stops
there.

`join` writes an object from such fields. Nothing is added to a raw value, so what
`split` gives can be joined again. -/
import BlockWire.Json.Scanner
import BlockWire.Json.Printer
import BlockWire.Text.Quoted

namespace BlockWire.RawFields

set_option autoImplicit false

open Json (Scan Place skipBlanks)

/-- Why a document is no object that can be split. -/
inductive Malformed (σ : Type) where
  | encoding (fault : Encoding.Fault)
  | expected (what : String) (place : σ) (found : Option CodePoint)
  | fieldName (place : σ)
  | json (fault : Json.Fault σ)
  | tooDeep (place : σ)
  | trailing (place : σ)
deriving DecidableEq

def Malformed.map {σ τ : Type} (f : σ → τ) : Malformed σ → Malformed τ
  | .encoding fault => .encoding fault
  | .expected what place found => .expected what (f place) found
  | .fieldName place => .fieldName (f place)
  | .json fault => .json (fault.map f)
  | .tooDeep place => .tooDeep (f place)
  | .trailing place => .trailing (f place)

/-- Why splitting stops: the document is no object, or a value in it has no octets. -/
inductive Unsplit (σ : Type) where
  | malformed (why : Malformed σ)
  | unencodable (fault : Encoding.Unencodable)
deriving DecidableEq

def Unsplit.map {σ τ : Type} (f : σ → τ) : Unsplit σ → Unsplit τ
  | .malformed why => .malformed (why.map f)
  | .unencodable fault => .unencodable fault

def foundText : Option CodePoint → Text
  | none => "end of input"
  | some c => Text.quoted [c]

def Malformed.message : Malformed Place → Text
  | .encoding fault => "input is not valid UTF-8: " ++ Text.ofString fault.message
  | .expected what place found =>
      "expected " ++ Text.ofString what ++ " at offset " ++ Text.ofNat place.offset ++
        ", found " ++ foundText found
  | .fieldName place => "expected field name at offset " ++ Text.ofNat place.offset
  | .json fault => fault.message
  | .tooDeep place => "value at offset " ++ Text.ofNat place.offset ++ " is nested too deeply"
  | .trailing place => "trailing data at offset " ++ Text.ofNat place.offset

inductive Fault where
  | unsplit (why : Unsplit Place)
  | unknownField (name : Text)
deriving DecidableEq

/-! ## Taking apart -/

def expected (what : String) (t : Text) : Unsplit Text := .malformed (.expected what t t.head?)

/-- The octets of the value at the head of a text, and what is left behind it. -/
def rawValue (t : Text) : Except (Unsplit Text) (Octets × Text) :=
  match Json.scanValue Json.depthLimit t with
  | .ok (_, left) => do
      let raw ← (Encoding.encodeStrict (t.take (t.length - left.length))).mapError .unencodable
      .ok (raw, left)
  | .error .tooDeep => .error (.malformed (.tooDeep t))
  | .error fault => .error (.malformed (.json fault))

def rawMember : Scan (Unsplit Text) (Text × Octets)
  | [] => .error (.malformed (.fieldName []))
  | c :: rest =>
      if c = '"' then do
        let (key, left) ← (Json.scanString (c :: rest)).mapError (.malformed ∘ .json)
        match skipBlanks left with
        | [] => .error (expected "':'" [])
        | d :: behind =>
            if d = ':' then do
              let (raw, left) ← rawValue (skipBlanks behind)
              .ok ((key, raw), left)
            else .error (expected "':'" (d :: behind))
      else .error (.malformed (.fieldName (c :: rest)))

def unparted (t : Text) : Unsplit Text := expected "',' or '\x7d'" t

def scanObject : Scan (Unsplit Text) (List (Text × Octets))
  | [] => .error (expected "'\x7b'" [])
  | c :: rest =>
      if c = '{' then Json.items rawMember '}' unparted rest
      else .error (expected "'\x7b'" (c :: rest))

def splitText (t : Text) : Except (Unsplit Text) (Keyed Octets) := do
  let (members, left) ← scanObject (skipBlanks t)
  match skipBlanks left with
  | [] => .ok (Keyed.ofPairs members)
  | c :: rest => .error (.malformed (.trailing (c :: rest)))

def text : Document → Except Encoding.Fault Text
  | .octets content => Encoding.decodeStrict content
  | .text content => .ok content

def split (d : Document) : Except (Unsplit Place) (Keyed Octets) := do
  let t ← (text d).mapError (.malformed ∘ .encoding)
  (splitText t).mapError (Unsplit.map (Place.of t))

/-- Refuses the first key that is not declared, once the whole object has been
split. -/
def splitDeclared (declared : List Text) (d : Document) : Except Fault (Keyed Octets) := do
  let fields ← (split d).mapError .unsplit
  match Keyed.firstUnknown? declared fields with
  | none => .ok fields
  | some name => .error (.unknownField name)

/-! ## Putting together -/

def joinMember (name : Text) (raw : Octets) : Octets :=
  Utf8.encode (Json.printString name ++ ":") ++ raw

def join (fields : List (Text × Octets)) : Octets :=
  Utf8.encode "\x7b" ++
    Text.join (Utf8.encode ",") (fields.map fun field => joinMember field.1 field.2) ++
    Utf8.encode "\x7d"

end BlockWire.RawFields
