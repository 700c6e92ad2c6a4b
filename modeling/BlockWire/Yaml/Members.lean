/- # The order of a set

A set of numbers shows its members by the places they take in a table: a member's place
is its residue modulo the length of the table, or where that is taken the next free one
of a fixed search. Any other set shows them in the order of the document. -/
import BlockWire.Yaml.Key

namespace BlockWire.Yaml.Members

set_option autoImplicit false

/-- `2 ^ 61 - 1`. -/
def modulus : Nat := 0x1FFFFFFFFFFFFFFF

/-- `2 ^ 64`. -/
def wordBound : Nat := 0x10000000000000000

/-- What stands for minus one, which is not used, and for infinity. -/
def minusOne : Int := -2

def infinity : Nat := 314159

/-- The residue of a multiple of a power of two; the powers repeat after sixty-one. -/
def residue (number : Int × Int) : Int :=
  let r := number.1.natAbs * Nat.pow 2 (number.2 % 61).toNat % modulus
  let signed := Numeral.signed (number.1 < 0) r
  if signed = -1 then minusOne else signed

/-- A number as a word of 64 bits. -/
def word? (member : Setting) : Option Nat :=
  let code : Option Int :=
    match member with
    | .float (.infinite negative) => some (Numeral.signed negative infinity)
    | member => (numberOf? member).map residue
  code.map fun n => (n % (wordBound : Int)).toNat

/-- Five members or more have a table of more than twice their number. -/
def tableLength (count : Nat) : Nat :=
  if count < 5 then 8 else Nat.pow 2 ((2 * count).log2 + 1)

/-- Places looked at one after the other: ten, where the table is that long. -/
def stretch (length first : Nat) : List Nat :=
  if first + 9 < length then (List.range 10).map (first + ·) else [first]

/-- The first free place, from `first` on; `shift` mixes the upper bits in. -/
def place (length : Nat) (taken : Nat → Bool) : Nat → Nat → Nat → Nat
  | 0, _, first => first
  | fuel + 1, shift, first =>
      match (stretch length first).find? (!taken ·) with
      | some free => free
      | none =>
          let shift := shift / 32
          place length taken fuel shift ((5 * first + 1 + shift) % length)

def insert (length : Nat) (table : List (Nat × Setting)) (word : Nat) (member : Setting) :
    List (Nat × Setting) :=
  let taken := fun i => (table.lookup i).isSome
  (place length taken (length + 13) word (word % length), member) :: table

def ordered (members : List Setting) : List Setting :=
  match members.mapM word? with
  | none => members
  | some words =>
      let length := tableLength members.length
      let table := (words.zip members).foldl (fun t m => insert length t m.1 m.2) []
      (List.range length).filterMap fun i => table.lookup i

end BlockWire.Yaml.Members
