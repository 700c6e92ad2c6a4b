/- # Which encoding a document is in

A byte order mark settles it. Without one, the places of the zero octets among
the first four do, since a document begins with two ASCII characters.

Positions in a fault count the mark of UTF-16 and UTF-32 but not that of UTF-8.

Every text can be written in UTF-8 if surrogates are let through. Strictly written it must
not hold any. -/
import BlockWire.Hex
import BlockWire.Text.Utf8
import BlockWire.Text.Wide

namespace BlockWire

set_option autoImplicit false

inductive Encoding where
  | utf8
  | utf16 (order : Wide.ByteOrder)
  | utf32 (order : Wide.ByteOrder)
deriving DecidableEq

namespace Encoding

def name : Encoding → String
  | .utf8 => "utf-8"
  | .utf16 .big => "utf-16-be"
  | .utf16 .little => "utf-16-le"
  | .utf32 .big => "utf-32-be"
  | .utf32 .little => "utf-32-le"

/-- The octets of a document behind its mark, and the position of the first. -/
structure Sniffed where
  encoding : Encoding
  body : Octets
  origin : Nat
deriving DecidableEq

/-- The encoding a mark announces. The mark of UTF-32 little-endian begins with
that of UTF-16 and is looked for first. -/
def ofMark? : Octets → Option Sniffed
  | 0x00 :: 0x00 :: 0xFE :: 0xFF :: rest => some ⟨.utf32 .big, rest, 4⟩
  | 0xFF :: 0xFE :: 0x00 :: 0x00 :: rest => some ⟨.utf32 .little, rest, 4⟩
  | 0xFE :: 0xFF :: rest => some ⟨.utf16 .big, rest, 2⟩
  | 0xFF :: 0xFE :: rest => some ⟨.utf16 .little, rest, 2⟩
  | 0xEF :: 0xBB :: 0xBF :: rest => some ⟨.utf8, rest, 0⟩
  | _ => none

def ofZeros : Octets → Encoding
  | [a, b] => if a = 0 then .utf16 .big else if b = 0 then .utf16 .little else .utf8
  | a :: b :: c :: d :: _ =>
      if a = 0 then (if b = 0 then .utf32 .big else .utf16 .big)
      else if b = 0 then (if c = 0 ∧ d = 0 then .utf32 .little else .utf16 .little)
      else .utf8
  | _ => .utf8

def sniff (octets : Octets) : Sniffed := (ofMark? octets).getD ⟨ofZeros octets, octets, 0⟩

/-- Why octets are no text: the encoding, what is wrong, where, and the octet there. -/
structure Fault where
  encoding : Encoding
  reason : String
  position : Nat
  width : Nat
  octet : UInt8
deriving DecidableEq

def reason8 : Utf8.Problem → String
  | .startByte => "invalid start byte"
  | .continuationByte => "invalid continuation byte"
  | .unexpectedEnd => "unexpected end of data"

def reasonWide : Wide.Problem → String
  | .truncated => "truncated data"
  | .outOfRange => "code point not in range(0x110000)"

/-- `octets` is the whole input, in which the fault's position counts. -/
def fault8 (octets : Octets) (f : Utf8.Fault) : Fault :=
  ⟨.utf8, reason8 f.problem, f.position, f.width, octets.getD f.position 0⟩

def faultWide (encoding : Encoding) (octets : Octets) (f : Wide.Fault) : Fault :=
  ⟨encoding, reasonWide f.problem, f.position, f.width, octets.getD f.position 0⟩

def Sniffed.decode (s : Sniffed) (octets : Octets) : Except Fault Text :=
  match s.encoding with
  | .utf8 => (Utf8.decodeSurrogates s.body).mapError (fault8 s.body)
  | .utf16 order => (Wide.decode16 order s.origin s.body).mapError (faultWide s.encoding octets)
  | .utf32 order => (Wide.decode32 order s.origin s.body).mapError (faultWide s.encoding octets)

/-- The text of a document in whatever encoding it shows, surrogates admitted. -/
def decode (octets : Octets) : Except Fault Text := (sniff octets).decode octets

/-- The text of a document that has to be strict UTF-8. -/
def decodeStrict (octets : Octets) : Except Fault Text :=
  (Utf8.decode octets).mapError (fault8 octets)

def hexPair (b : UInt8) : String :=
  String.ofList [Nat.digitChar (b.toNat / 16), Nat.digitChar (b.toNat % 16)]

def Fault.message (f : Fault) : String :=
  let span :=
    if f.width = 1 then "byte 0x" ++ hexPair f.octet ++ " in position " ++ Nat.repr f.position
    else "bytes in position " ++ Nat.repr f.position ++ "-" ++ Nat.repr (f.position + f.width - 1)
  "'" ++ f.encoding.name ++ "' codec can't decode " ++ span ++ ": " ++ f.reason

/-! ## Writing -/

/-- The first surrogates of a text, `width` of them side by side. -/
structure Unencodable where
  first : CodePoint
  position : Nat
  width : Nat
deriving DecidableEq

def unencodable? (t : Text) : Option Unencodable :=
  match t.dropWhile fun c => !c.isSurrogate with
  | [] => none
  | c :: rest =>
      some ⟨c, (t.takeWhile fun c => !c.isSurrogate).length,
        (rest.takeWhile CodePoint.isSurrogate).length + 1⟩

/-- The octets of a text that holds no surrogate. -/
def encodeStrict (t : Text) : Except Unencodable Octets :=
  match unencodable? t with
  | none => .ok (Utf8.encode t)
  | some fault => .error fault

def Unencodable.message (fault : Unencodable) : Text :=
  let span : Text :=
    if fault.width = 1 then
      "character '\\u" ++ Hex.padded 4 fault.first.val ++ "' in position " ++
        Text.ofNat fault.position
    else
      "characters in position " ++ Text.ofNat fault.position ++ "-" ++
        Text.ofNat (fault.position + fault.width - 1)
  "'utf-8' codec can't encode " ++ span ++ ": surrogates not allowed"

end Encoding

end BlockWire
