/- # Keys of a mapping

Numbers and truth values that are equal are one key, whatever their type; so are moments
with a zone that are the same instant. A mapping keeps the first of equal keys, in its
place, with the value of the last.

What is no number has a word of its own, by which it is one key. Spelled otherwise it
equals nothing but what goes by the same name. -/
import BlockWire.Config.Setting
import BlockWire.Number.Binary64

namespace BlockWire.Yaml

set_option autoImplicit false

/-- A number as a multiple of a power of two. -/
def numberOf? : Setting → Option (Int × Int)
  | .int n => some (n, 0)
  | .bool b => some (if b then 1 else 0, 0)
  | .float (.finite negative m q) => some (Numeral.signed negative m, q)
  | _ => none

def sameNumber (a b : Int × Int) : Bool :=
  let least := min a.2 b.2
  a.1 * Nat.pow 2 (a.2 - least).toNat == b.1 * Nat.pow 2 (b.2 - least).toNat

def sameMoment (m n : Moment) : Bool :=
  match m.instant?, n.instant? with
  | some i, some j => i == j
  | _, _ => m == n

def sameKey (a b : Setting) : Bool :=
  match numberOf? a, numberOf? b with
  | some m, some n => sameNumber m n
  | _, _ =>
      match a, b with
      | .null, .null => true
      | .text s, .text t => s == t
      | .float x, .float y => x == y
      | .date d, .date e => d == e
      | .moment m, .moment n => sameMoment m n
      | .binary a, .binary b => a == b
      | _, _ => false

/-- What a key can be equal by. -/
inductive Likeness where
  | value
  | name (name : Option Text)

structure Key where
  value : Setting
  likeness : Likeness

namespace Key

def same (a b : Key) : Bool :=
  match a.likeness, b.likeness with
  | .value, .value => sameKey a.value b.value
  | .name (some m), .name (some n) => m == n
  | _, _ => false

def insert : List (Key × Setting) → Key → Setting → List (Key × Setting)
  | [], key, value => [(key, value)]
  | (k, v) :: rest, key, value =>
      if k.same key then (k, value) :: rest else (k, v) :: insert rest key value

/-- The entries of a mapping, from its keys and values in order. -/
def entries (pairs : List (Key × Setting)) : List (Setting × Setting) :=
  (pairs.foldl (fun built pair => insert built pair.1 pair.2) []).map fun entry =>
    (entry.1.value, entry.2)

end Key

end BlockWire.Yaml
