/- # Numbers in a YAML document

Whether a plain scalar is a number is told by its shape (`isWhole`, `isPointed`):
whole numbers in four bases and in sixties, numbers with a point, infinity and what
is no number at all. Underscores may stand between the digits.

What a number denotes is read without its underscores and its sign. A shape may admit a
text that has no digit left then, and a tag can ask for a number whatever the shape, so
reading can fail on its own; it takes more than the shapes do, blanks and a second sign
among it. -/
import BlockWire.Number.Binary64
import BlockWire.Yaml.Fault

namespace BlockWire.Yaml

set_option autoImplicit false

def underscore : CodePoint := '_'

def strip (t : Text) : Text := t.filter (· != underscore)

def isLoose (digit : CodePoint → Bool) (c : CodePoint) : Bool := digit c || c == underscore

def splitAtMark (mark : CodePoint) : Text → List Text
  | [] => [[]]
  | c :: rest =>
      if c = mark then [] :: splitAtMark mark rest
      else
        match splitAtMark mark rest with
        | [] => [[c]]
        | part :: parts => (c :: part) :: parts

/-! ## Shapes -/

/-- One or two digits below sixty. -/
def isSixtieth : Text → Bool
  | [a] => a.isDigit
  | [a, b] => a.isDigit && b.isDigit && a.val < 0x36
  | _ => false

/-- A digit, then digits and underscores. -/
def isCount (t : Text) : Bool :=
  t.head?.any CodePoint.isDigit && t.all (isLoose CodePoint.isDigit)

def isUnsigned : Text → Bool
  | [] => false
  | c :: rest =>
      if c = '0' then
        match rest with
        | [] => true
        | d :: more =>
            (d = 'b' && !more.isEmpty && more.all (isLoose (Numeral.isDigitOf 2))) ||
              (d = 'x' && !more.isEmpty && more.all (isLoose (Numeral.isDigitOf 16))) ||
              rest.all (isLoose (Numeral.isDigitOf 8))
      else
        match splitAtMark ':' (c :: rest) with
        | [] => false
        | whole :: sixtieths => isCount whole && sixtieths.all isSixtieth

def isWhole (t : Text) : Bool := isUnsigned (Numeral.scanSign t).2

/-- Nothing, or an exponent mark, a sign and digits. -/
def isExponent : Text → Bool
  | [] => true
  | mark :: sign :: rest =>
      (mark = 'e' || mark = 'E') && (sign = '-' || sign = '+') && !rest.isEmpty &&
        rest.all CodePoint.isDigit
  | _ => false

/-- A point, digits and underscores, and perhaps an exponent. -/
def isFraction (t : Text) : Bool :=
  match Text.after? "." t with
  | none => false
  | some behind => isExponent (behind.dropWhile (isLoose CodePoint.isDigit))

/-- A count in sixties whose last part has a point. -/
def isPointedSixties (t : Text) : Bool :=
  match splitAtMark ':' t with
  | first :: next :: more =>
      let parts := next :: more
      let last := parts.getLastD []
      let seconds := Text.leadingDigits last
      isCount first && parts.dropLast.all isSixtieth && isSixtieth seconds &&
        (match Text.after? "." (last.drop seconds.length) with
          | none => false
          | some behind => behind.all (isLoose CodePoint.isDigit))
  | _ => false

def infinityWords : List Text := [".inf", ".Inf", ".INF"]

def nanWords : List Text := [".nan", ".NaN", ".NAN"]

def isPointed (t : Text) : Bool :=
  let unsigned := (Numeral.scanSign t).2
  nanWords.contains t || infinityWords.contains unsigned ||
    (unsigned.head?.any CodePoint.isDigit &&
      (isFraction (unsigned.dropWhile (isLoose CodePoint.isDigit)) ||
        isPointedSixties unsigned)) ||
    ((t.drop 1).head?.any CodePoint.isDigit && isFraction t)

/-! ## What they denote -/

def readWhole (base : Nat) (t : Text) : Except Fault Int :=
  (Numeral.readWhole base t).mapError .number

def readPointed (t : Text) : Except Fault Binary64 := (Numeral.readPointed t).mapError .number

def unsignedValue (t : Text) : Except Fault Int :=
  if t.isEmpty then .error .noNumber
  else if t = "0" then .ok 0
  else
    match Text.after? "0b" t, Text.after? "0x" t, Text.after? "0" t with
    | some digits, _, _ => readWhole 2 digits
    | none, some digits, _ => readWhole 16 digits
    | none, none, some _ => readWhole 8 t
    | none, none, none => do
        let parts ← (splitAtMark ':' t).mapM (readWhole 10)
        .ok (parts.foldl (fun n part => n * 60 + part) 0)

def wholeValue (t : Text) : Except Fault Int :=
  let sign := Numeral.scanSign (strip t)
  (unsignedValue sign.2).map fun n => if sign.1 then -n else n

/-- Adds a part that counts a power of sixty to those behind it. The power has to be
one that a float can hold. -/
def addPart (total : Binary64 × Nat) (part : Binary64) : Except Fault (Binary64 × Nat) :=
  match Binary64.ofNat total.2 with
  | .infinite _ => .error .unitTooLarge
  | unit => .ok (total.1.add (part.mul unit), total.2 * 60)

/-- Parts in sixties, the last first, added up from there. -/
def sumSixties (parts : List Binary64) : Except Fault Binary64 :=
  (parts.foldlM addPart (Binary64.zero false, 1)).map Prod.fst

def unsignedFloat (t : Text) : Except Fault Binary64 :=
  if t = ".inf" then .ok (.infinite false)
  else if t = ".nan" then .ok .nan
  else if t.contains (CodePoint.ofChar ':') then do
    let parts ← (splitAtMark ':' t).mapM readPointed
    sumSixties parts.reverse
  else readPointed t

def floatValue (t : Text) : Except Fault Binary64 :=
  let lower := (strip t).toLower
  if lower.isEmpty then .error .noNumber
  else
    let sign := Numeral.scanSign lower
    (unsignedFloat sign.2).map fun x => if sign.1 then x.neg else x

end BlockWire.Yaml
