/- # Bits in octets

Bit `i` of a bitfield is bit `i % 8` of octet `i / 8`, counted from the lowest. A bit
list carries one more bit behind its last, so that its length can be told from its
octets: what stands below the highest bit of the last octet is the list.

Bits are read back from the octets they are packed into, with zeros behind them
(`unpack_pack`), and octets from their bits (`pack_unpack`). -/
import BlockWire.Text.CodePoint

namespace BlockWire.Bits

set_option autoImplicit false

def ofOctet (b : UInt8) : List Bool := (List.range 8).map fun i => b.toNat.testBit i

def unpack (octets : Octets) : List Bool := octets.flatMap ofOctet

/-- The octet whose lowest bits are given. -/
def toOctet (bits : List Bool) : UInt8 := .ofNat (bits.foldr (fun b n => 2 * n + b.toNat) 0)

/-- The first `8 * count` bits, with zeros where there are none. -/
def pack : Nat → List Bool → Octets
  | 0, _ => []
  | count + 1, bits => toOctet (bits.take 8) :: pack count (bits.drop 8)

/-- The octets that so many bits fill, the last perhaps in part. -/
def octetCount (length : Nat) : Nat := (length + 7) / 8

def encodeVector (bits : List Bool) : Octets := pack (octetCount bits.length) bits

def encodeList (bits : List Bool) : Octets := encodeVector (bits ++ [true])

/-- The first bits of octets. -/
def decode (length : Nat) (octets : Octets) : List Bool := (unpack octets).take length

/-- The binary digits of a number, none for zero. -/
def bitLength (n : Nat) : Nat := if n = 0 then 0 else n.log2 + 1

/-- Where `length` bits fill the last octet in part: whether it holds a set bit behind
them. -/
def holdsBeyond (length : Nat) (octets : Octets) : Bool :=
  length % 8 != 0 && (octets.getLastD 0).toNat >>> (length % 8) != 0

/-- The length of a bit list; none if its last octet holds no bit. -/
def listLength? (octets : Octets) : Option Nat :=
  match octets.getLast? with
  | none => none
  | some last =>
      if last = 0 then none else some ((octets.length - 1) * 8 + bitLength last.toNat - 1)

/-! ## Reading what was written -/

theorem length_pack (count : Nat) (bits : List Bool) : (pack count bits).length = count := by
  induction count generalizing bits with
  | zero => rfl
  | succ count ih => simp [pack, ih]

theorem ofOctet_toOctet_eight : ∀ a b c d e f g h : Bool,
    ofOctet (toOctet [a, b, c, d, e, f, g, h]) = [a, b, c, d, e, f, g, h] := by decide

theorem ofOctet_toOctet {bits : List Bool} (eight : bits.length = 8) :
    ofOctet (toOctet bits) = bits := by
  match bits, eight with
  | [a, b, c, d, e, f, g, h], _ => exact ofOctet_toOctet_eight a b c d e f g h

theorem toOctet_ofOctet (b : UInt8) : toOctet (ofOctet b) = b := by
  revert b
  suffices all : ∀ n : Fin 256, toOctet (ofOctet (.ofNat n.val)) = .ofNat n.val by
    intro b
    simpa using all ⟨b.toNat, b.toNat_lt⟩
  decide +kernel

/-- Zeros behind its bits add nothing to an octet. -/
theorem toOctet_append_zeros (bits : List Bool) (n : Nat) :
    toOctet (bits ++ List.replicate n false) = toOctet bits := by
  have zeros : ∀ n, (List.replicate n false).foldr (fun b n => 2 * n + b.toNat) 0 = 0 := by
    intro n
    induction n with
    | zero => rfl
    | succ n ih => simp [List.replicate_succ, ih]
  simp [toOctet, zeros]

/-- The bits are read back, with zeros behind them. -/
theorem unpack_pack {count : Nat} {bits : List Bool} (room : bits.length ≤ 8 * count) :
    unpack (pack count bits) = bits ++ List.replicate (8 * count - bits.length) false := by
  induction count generalizing bits with
  | zero =>
      have empty : bits = [] := List.eq_nil_of_length_eq_zero (by omega)
      subst empty
      rfl
  | succ count ih =>
      have later := @ih (bits.drop 8) (by simp; omega)
      have first : ofOctet (toOctet (bits.take 8)) =
          bits.take 8 ++ List.replicate (8 - bits.length) false := by
        rw [← toOctet_append_zeros _ (8 - bits.length), ofOctet_toOctet (by simp; omega)]
      simp only [unpack, pack, List.flatMap_cons] at later ⊢
      rw [first, later]
      by_cases long : 8 ≤ bits.length
      · rw [show 8 - bits.length = 0 by omega, List.replicate_zero, List.append_nil,
          ← List.append_assoc, List.take_append_drop, List.length_drop]
        congr 2
        omega
      · rw [List.drop_eq_nil_of_le (by omega), List.take_of_length_le (by omega),
          List.append_assoc, List.nil_append, List.replicate_append_replicate, List.length_nil]
        congr 2
        omega

/-- Octets are written back from their bits. -/
theorem pack_unpack (octets : Octets) : pack octets.length (unpack octets) = octets := by
  induction octets with
  | nil => rfl
  | cons b rest ih =>
      have octet : (ofOctet b).length = 8 := rfl
      simp only [unpack, List.flatMap_cons, List.length_cons, pack] at ih ⊢
      rw [List.take_left' octet, List.drop_left' octet, toOctet_ofOctet, ih]

end BlockWire.Bits
