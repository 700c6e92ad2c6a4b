/- # Binary floating point of 64 bits

A finite value is `± m * 2 ^ q` with `m < 2 ^ 53` and `-1074 ≤ q`, and `m` is at
least `2 ^ 52` unless `q` is least. Everything is exact arithmetic on natural
numbers.

* `ofDecimal` rounds a decimal to the nearest value, ties to the even `m`.
* `shortest` finds the fewest digits that round back to a value, and of those the
  digits nearest to it, a tie going to the even digit. On each decimal grid only the
  two neighbours of the value can be nearest, so the first grid of which one rounds
  back settles it. -/
import BlockWire.Text.CodePoint

namespace BlockWire

set_option autoImplicit false

inductive Binary64 where
  | finite (negative : Bool) (mantissa : Nat) (exponent : Int)
  | infinite (negative : Bool)
  | nan
deriving DecidableEq

namespace Binary64

/-- `2 ^ 52`, the least mantissa of full length. -/
def leastNormal : Nat := 0x10000000000000

/-- `2 ^ 53`, which mantissas are below. -/
def mantissaBound : Nat := 0x20000000000000

def zero (negative : Bool) : Binary64 := .finite negative 0 (-1074)

def roundHalfEven (num den : Nat) : Nat :=
  let floor := num / den
  let twice := 2 * (num % den)
  if twice < den then floor else if den < twice then floor + 1 else floor + floor % 2

/-- `num / den / 2 ^ q` as a quotient. -/
def scale (num den : Nat) (q : Int) : Nat × Nat :=
  (num * Nat.pow 2 (-q).toNat, den * Nat.pow 2 q.toNat)

/-- The exponent at which a quotient has 53 bits, or the least one. -/
def exponentOf (num den : Nat) : Int :=
  let q := max (-1074) ((num.log2 : Int) - den.log2 - 53)
  let scaled := scale num den q
  if scaled.1 / scaled.2 < mantissaBound then q else q + 1

def ofRatio (negative : Bool) (num den : Nat) : Binary64 :=
  if num = 0 then zero negative
  else
    let q := exponentOf num den
    let scaled := scale num den q
    let m := roundHalfEven scaled.1 scaled.2
    -- rounding up can reach the next power of two
    let carried := if m = mantissaBound then (leastNormal, q + 1) else (m, q)
    if 971 < carried.2 then .infinite negative else .finite negative carried.1 carried.2

/-- `± digits * 10 ^ exponent`, rounded. Values far outside the range are settled
by their exponent alone. -/
def ofDecimal (negative : Bool) (digits : Nat) (exponent : Int) : Binary64 :=
  if digits = 0 then zero negative
  else if 0 ≤ exponent then
    if 400 < exponent then .infinite negative
    else ofRatio negative (digits * Nat.pow 10 exponent.toNat) 1
  else if (digits.log2 : Int) + 1 + 3 * exponent < -1200 then zero negative
  else ofRatio negative digits (Nat.pow 10 (-exponent).toNat)

/-- Quarter units of `2 ^ q` against units of `10 ^ s`: a multiple `d` of the
second is compared with a multiple `x` of the first as `d * fst` with `x * snd`. -/
def grids (q s : Int) : Nat × Nat :=
  (Nat.pow 10 s.toNat * Nat.pow 2 (2 - q).toNat,
    Nat.pow 2 (q - 2).toNat * Nat.pow 10 (-s).toNat)

/-- Whether `d * 10 ^ s` rounds to `m * 2 ^ q`. Below a power of two the
neighbour is only half as far. -/
def roundsTo (m : Nat) (q : Int) (d : Nat) (s : Int) : Bool :=
  let grid := grids q s
  let low := (4 * m - if m = leastNormal ∧ -1074 < q then 1 else 2) * grid.2
  let high := (4 * m + 2) * grid.2
  let point := d * grid.1
  if m % 2 = 0 then low ≤ point && point ≤ high else low < point && point < high

/-- The neighbour of `m * 2 ^ q` on the grid of `10 ^ s` that rounds back to it,
the nearer one if both do, and the even one if they are equally near. -/
def onGrid? (m : Nat) (q s : Int) : Option Nat :=
  let grid := grids q s
  let value := 4 * m * grid.2
  let below := value / grid.1
  match roundsTo m q below s, roundsTo m q (below + 1) s with
  | true, true =>
      let down := value - below * grid.1
      let up := (below + 1) * grid.1 - value
      if down < up then some below
      else if up < down then some (below + 1)
      else some (below + below % 2)
  | true, false => some below
  | false, true => some (below + 1)
  | false, false => none

/-- The least `e` with `m * 2 ^ q < 10 ^ e`, from an estimate at most two too low. -/
def magnitude (m : Nat) (q : Int) : Int :=
  let estimate := ((m.log2 : Int) + q) * 30103 / 100000 - 1
  let above := fun (e : Int) =>
    let grid := grids q e
    4 * m * grid.2 < grid.1
  if above estimate then estimate
  else if above (estimate + 1) then estimate + 1
  else if above (estimate + 2) then estimate + 2
  else estimate + 3

/-- Seventeen digits always suffice, and then the value's floor stands in. -/
def searchGrids (m : Nat) (q top : Int) : Nat → Nat → Nat × Int
  | 0, digits => (4 * m * (grids q (top - digits)).2 / (grids q (top - digits)).1, top - digits)
  | more + 1, digits =>
      match onGrid? m q (top - digits) with
      | some d => (d, top - digits)
      | none => searchGrids m q top more (digits + 1)

/-- Drops trailing zeros, at most `fuel` of them. -/
def trim : Nat → Nat → Int → Nat × Int
  | 0, d, s => (d, s)
  | fuel + 1, d, s => if d ≠ 0 ∧ d % 10 = 0 then trim fuel (d / 10) (s + 1) else (d, s)

/-- Digits and the power of ten they count, for a positive `m`. -/
def shortest (m : Nat) (q : Int) : Nat × Int :=
  let found := searchGrids m q (magnitude m q) 17 1
  trim 20 found.1 found.2

/-- The exponents that are written out as places. -/
def positional (exponent : Int) : Bool := -4 ≤ exponent && exponent < 16

def zeros (n : Nat) : Text := List.replicate n '0'

def exponentText (exponent : Int) : Text :=
  let sign : Text := if exponent < 0 then "-" else "+"
  "e" ++ sign ++ Text.padded 2 exponent.natAbs

/-- Digits and a power of ten: with a point and at least one place after it, or with
one digit before the point and a signed exponent of at least two digits. -/
def layout (digits : Text) (power : Int) : Text :=
  let point := digits.length + power
  if positional (point - 1) then
    if point ≤ 0 then "0." ++ zeros (-point).toNat ++ digits
    else if digits.length ≤ point then digits ++ zeros (point - digits.length).toNat ++ ".0"
    else digits.take point.toNat ++ "." ++ digits.drop point.toNat
  else
    let fraction : Text := if digits.length ≤ 1 then [] else "." ++ digits.drop 1
    digits.take 1 ++ fraction ++ exponentText (point - 1)

def signText (negative : Bool) : Text := if negative then "-" else ""

def display : Binary64 → Text
  | .nan => "nan"
  | .infinite negative => signText negative ++ "inf"
  | .finite negative m q =>
      let body : Text :=
        if m = 0 then "0.0"
        else
          let found := shortest m q
          layout (Text.ofNat found.1) found.2
      signText negative ++ body

/-! ## Sums and products

Each is the exact one, rounded to the nearest value. -/

/-- `± m * 2 ^ q`, rounded. -/
def ofScaled (negative : Bool) (m : Nat) (q : Int) : Binary64 :=
  ofRatio negative (m * Nat.pow 2 q.toNat) (Nat.pow 2 (-q).toNat)

def ofNat (n : Nat) : Binary64 := ofScaled false n 0

def signed (negative : Bool) (m : Nat) : Int := if negative then -(m : Int) else m

def neg : Binary64 → Binary64
  | .finite negative m q => .finite (!negative) m q
  | .infinite negative => .infinite (!negative)
  | .nan => .nan

def add : Binary64 → Binary64 → Binary64
  | .finite s m p, .finite t n q =>
      let least := min p q
      let sum :=
        signed s (m * Nat.pow 2 (p - least).toNat) + signed t (n * Nat.pow 2 (q - least).toNat)
      if sum = 0 then zero (s && t) else ofScaled (sum < 0) sum.natAbs least
  | .infinite s, .infinite t => if s = t then .infinite s else .nan
  | .infinite s, .finite _ _ _ => .infinite s
  | .finite _ _ _, .infinite t => .infinite t
  | .nan, _ => .nan
  | _, .nan => .nan

def mul : Binary64 → Binary64 → Binary64
  | .finite s m p, .finite t n q => ofScaled (s != t) (m * n) (p + q)
  | .infinite s, .infinite t => .infinite (s != t)
  | .infinite s, .finite t n _ => if n = 0 then .nan else .infinite (s != t)
  | .finite s m _, .infinite t => if m = 0 then .nan else .infinite (s != t)
  | .nan, _ => .nan
  | _, .nan => .nan

end Binary64

end BlockWire
