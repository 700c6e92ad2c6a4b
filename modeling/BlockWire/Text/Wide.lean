/- # UTF-16 and UTF-32

Two and four octets to a unit, in either order. A surrogate without its partner is
read as the code point it is, so only an input that ends inside a unit, or a
four-octet unit past U+10FFFF, is refused. -/
import BlockWire.Text.CodePoint

namespace BlockWire.Wide

set_option autoImplicit false

inductive ByteOrder where
  | big
  | little
deriving DecidableEq

inductive Problem where
  | truncated
  | outOfRange
deriving DecidableEq

structure Fault where
  problem : Problem
  position : Nat
  width : Nat
deriving DecidableEq

def ByteOrder.value : ByteOrder → List UInt8 → Nat
  | .big, octets => octets.foldl (fun n b => n * 0x100 + b.toNat) 0
  | .little, octets => octets.foldr (fun b n => n * 0x100 + b.toNat) 0

def units16 (order : ByteOrder) : Octets → Text
  | a :: b :: rest => .ofNat (order.value [a, b]) :: units16 order rest
  | _ => []

def joinPairs : Text → Text
  | high :: low :: rest =>
      if high.isHighSurrogate && low.isLowSurrogate then .ofPair high low :: joinPairs rest
      else high :: joinPairs (low :: rest)
  | short => short

/-- `origin` is the position of the first octet. -/
def decode16 (order : ByteOrder) (origin : Nat) (octets : Octets) : Except Fault Text :=
  if octets.length % 2 = 0 then .ok (joinPairs (units16 order octets))
  else .error ⟨.truncated, origin + octets.length - 1, 1⟩

def decode32 (order : ByteOrder) : Nat → Octets → Except Fault Text
  | _, [] => .ok []
  | position, a :: b :: c :: d :: rest =>
      let unit := order.value [a, b, c, d]
      if unit < 0x110000 then (decode32 order (position + 4) rest).map (.ofNat unit :: ·)
      else .error ⟨.outOfRange, position, 4⟩
  | position, short => .error ⟨.truncated, position, short.length⟩

/-! ## Lengths -/

theorem length_joinPairs_le (t : Text) : (joinPairs t).length ≤ t.length := by
  fun_induction joinPairs t with
  | case1 high low rest pair ih =>
      simp only [List.length_cons]
      omega
  | case2 high low rest single ih =>
      simp only [List.length_cons] at ih ⊢
      omega
  | case3 short => exact Nat.le_refl _

theorem length_units16 (order : ByteOrder) (octets : Octets) :
    2 * (units16 order octets).length ≤ octets.length := by
  fun_induction units16 order octets with
  | case1 a b rest ih =>
      simp only [List.length_cons]
      omega
  | case2 short => simp

end BlockWire.Wide
