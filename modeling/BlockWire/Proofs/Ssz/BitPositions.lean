/- # Bits by position

`bitAt octets i` is bit `i % 8` of octet `i / 8`, and no bit is set behind the last
octet. In these terms a vector of `length` bits is `below octets length`, where no bit
from `length` on is set (`holdsBeyond_eq_false`), and a list of bits is what lies below
the highest set bit (`listLength?_eq_some`), which stands in the last octet exactly when
that octet is not zero. What is written holds each bit at its position
(`bitAt_encodeVector`), and octets are written again from their bits
(`encodeVector_decode`, `encodeList_decode`). -/
import BlockWire.Ssz.Bits

namespace BlockWire.Bits

set_option autoImplicit false

def bitAt (octets : Octets) (i : Nat) : Bool := (octets.getD (i / 8) 0).toNat.testBit (i % 8)

/-- The bits at the positions below `k`. -/
def below (octets : Octets) (k : Nat) : List Bool := (List.range k).map (bitAt octets)

/-- Position `k` holds a set bit and none behind it does. -/
structure HighestAt (octets : Octets) (k : Nat) : Prop where
  set : bitAt octets k = true
  clear : ∀ i, k < i → bitAt octets i = false

theorem HighestAt.unique {octets : Octets} {k l : Nat} (atK : HighestAt octets k)
    (atL : HighestAt octets l) : k = l := by
  rcases Nat.lt_trichotomy k l with lower | same | higher
  · exact absurd atL.set (by simp [atK.clear l lower])
  · exact same
  · exact absurd atK.set (by simp [atL.clear k higher])

theorem length_below (octets : Octets) (k : Nat) : (below octets k).length = k := by
  simp [below]

theorem getElem?_unpack (octets : Octets) (i : Nat) :
    (unpack octets)[i]? = if i < 8 * octets.length then some (bitAt octets i) else none := by
  induction octets generalizing i with
  | nil => simp [unpack]
  | cons b rest ih =>
      have octet : (ofOctet b).length = 8 := rfl
      have unpacked : unpack (b :: rest) = ofOctet b ++ unpack rest := by simp [unpack]
      rw [unpacked, List.length_cons]
      by_cases inside : i < 8
      · rw [List.getElem?_append_left (by omega), if_pos (by omega)]
        simp [ofOctet, bitAt, inside, show i / 8 = 0 by omega, show i % 8 = i by omega]
      · have later : i / 8 = (i - 8) / 8 + 1 := by omega
        have same : i % 8 = (i - 8) % 8 := by omega
        rw [List.getElem?_append_right (by omega), octet, ih]
        simp only [bitAt, later, same, List.getD_cons_succ]
        congr 1
        simp only [eq_iff_iff]
        omega

theorem bitAt_of_le {octets : Octets} {i : Nat} (behind : 8 * octets.length ≤ i) :
    bitAt octets i = false := by
  have absent : octets[i / 8]? = none := by
    rw [List.getElem?_eq_none_iff]
    omega
  simp [bitAt, List.getD_eq_getElem?_getD, absent]

/-- Enough octets hold the bits below a position. -/
theorem decode_eq_below {octets : Octets} {k : Nat} (room : k ≤ 8 * octets.length) :
    decode k octets = below octets k := by
  apply List.ext_getElem?
  intro i
  by_cases inside : i < k
  · simp [decode, List.getElem?_take_of_lt inside, getElem?_unpack, below, inside,
      show i < 8 * octets.length by omega]
  · have short : (List.range k).length ≤ i := by simpa using inside
    simp only [decode, below, List.getElem?_take, List.getElem?_map, if_neg inside,
      List.getElem?_eq_none short, Option.map_none]

/-! ## The last octet -/

theorem bitAt_of_getLast? {octets : Octets} {last : UInt8} (ends : octets.getLast? = some last)
    {i : Nat} (inLast : i / 8 = octets.length - 1) :
    bitAt octets i = last.toNat.testBit (i % 8) := by
  rw [List.getLast?_eq_getElem?] at ends
  rw [bitAt, List.getD_eq_getElem?_getD, inLast, ends, Option.getD_some]

theorem shiftRight_eq_zero_iff {n k : Nat} :
    n >>> k = 0 ↔ ∀ i, k ≤ i → n.testBit i = false := by
  constructor
  · intro zero i above
    have bit : (n >>> k).testBit (i - k) = n.testBit i := by
      rw [Nat.testBit_shiftRight, Nat.add_sub_cancel' above]
    rw [← bit, zero, Nat.zero_testBit]
  · intro clear
    apply Nat.eq_of_testBit_eq
    intro i
    rw [Nat.testBit_shiftRight, Nat.zero_testBit]
    exact clear _ (Nat.le_add_right _ _)

/-- Only the last octet can hold a bit behind the first ones, so looking at it will do. -/
theorem holdsBeyond_eq_false {octets : Octets} {length : Nat}
    (exact : octets.length = octetCount length) :
    holdsBeyond length octets = false ↔ ∀ i, length ≤ i → bitAt octets i = false := by
  rw [octetCount] at exact
  by_cases whole : length % 8 = 0
  · have behind : ∀ i, length ≤ i → bitAt octets i = false := by
      intro i above
      exact bitAt_of_le (by omega)
    simp only [holdsBeyond, whole, bne_self_eq_false, Bool.false_and, true_iff]
    exact behind
  · cases ends : octets.getLast? with
    | none =>
        have empty : octets.length = 0 := by rw [List.getLast?_eq_none_iff.1 ends, List.length_nil]
        omega
    | some last =>
        have beyond : holdsBeyond length octets = false ↔ last.toNat >>> (length % 8) = 0 := by
          simp [holdsBeyond, whole, List.getLastD_eq_getLast?, ends]
        rw [beyond, shiftRight_eq_zero_iff]
        constructor
        · intro clear i above
          by_cases inLast : i / 8 = octets.length - 1
          · rw [bitAt_of_getLast? ends inLast]
            exact clear _ (by omega)
          · exact bitAt_of_le (by omega)
        · intro clear i above
          by_cases inside : i < 8
          · have here := clear (8 * (octets.length - 1) + i) (by omega)
            rwa [bitAt_of_getLast? ends (by omega), Nat.mul_add_mod, Nat.mod_eq_of_lt inside] at here
          · have small : last.toNat < 2 ^ i :=
              Nat.lt_of_lt_of_le last.toNat_lt (Nat.pow_le_pow_right (by decide) (by omega))
            exact Nat.testBit_lt_two_pow small

/-- The highest bit of a last octet that is not zero is the highest of all. -/
theorem highestAt_of_getLast? {octets : Octets} {last : UInt8}
    (ends : octets.getLast? = some last) (nonzero : last ≠ 0) :
    HighestAt octets ((octets.length - 1) * 8 + bitLength last.toNat - 1) := by
  have positive : last.toNat ≠ 0 := by
    intro zero
    exact nonzero (UInt8.toNat_inj.1 zero)
  have low : last.toNat.log2 < 8 := (Nat.log2_lt positive).2 last.toNat_lt
  have place : (octets.length - 1) * 8 + bitLength last.toNat - 1 =
      (octets.length - 1) * 8 + last.toNat.log2 := by
    rw [bitLength, if_neg positive]
    omega
  rw [place]
  constructor
  · have offset : ((octets.length - 1) * 8 + last.toNat.log2) % 8 = last.toNat.log2 := by omega
    rw [bitAt_of_getLast? ends (by omega), offset]
    exact Nat.testBit_log2 positive
  · intro i above
    by_cases inLast : i / 8 = octets.length - 1
    · rw [bitAt_of_getLast? ends inLast]
      exact Nat.testBit_lt_two_pow ((Nat.log2_lt positive).1 (by omega))
    · exact bitAt_of_le (by omega)

/-- A bit list is as long as its highest set bit says, which stands in the last octet. -/
theorem listLength?_eq_some {octets : Octets} {k : Nat} :
    listLength? octets = some k ↔
      ∃ last, octets.getLast? = some last ∧ last ≠ 0 ∧ HighestAt octets k := by
  unfold listLength?
  cases ends : octets.getLast? with
  | none => simp
  | some last =>
      by_cases zero : last = 0
      · simp [zero]
      · have highest := highestAt_of_getLast? ends zero
        simp only [if_neg zero, Option.some.injEq]
        constructor
        · rintro rfl
          exact ⟨last, rfl, zero, highest⟩
        · rintro ⟨_, -, -, atK⟩
          exact highest.unique atK

/-- The octets of a bit list reach just to its highest bit. -/
theorem HighestAt.length_eq {octets : Octets} {k : Nat} {last : UInt8}
    (atK : HighestAt octets k) (ends : octets.getLast? = some last) (nonzero : last ≠ 0) :
    octets.length = k / 8 + 1 := by
  have positive : last.toNat ≠ 0 := fun same => nonzero (UInt8.toNat_inj.1 same)
  have low : last.toNat.log2 < 8 := (Nat.log2_lt positive).2 last.toNat_lt
  have present : 0 < octets.length := by
    apply List.length_pos_iff.2
    rintro rfl
    simp at ends
  rw [atK.unique (highestAt_of_getLast? ends nonzero), bitLength, if_neg positive]
  omega

/-- The bits of a list all have their place in its octets. -/
theorem HighestAt.le {octets : Octets} {k : Nat} (atK : HighestAt octets k) :
    k ≤ 8 * octets.length := by
  apply Decidable.by_contra
  intro outside
  have set := atK.set
  rw [bitAt_of_le (by omega)] at set
  exact absurd set (by decide)

/-! ## What is written -/

theorem unpack_encodeVector (bits : List Bool) :
    unpack (encodeVector bits) =
      bits ++ List.replicate (8 * octetCount bits.length - bits.length) false := by
  refine unpack_pack ?_
  rw [octetCount]
  omega

theorem length_encodeVector (bits : List Bool) :
    (encodeVector bits).length = octetCount bits.length := length_pack _ _

theorem bitAt_encodeVector (bits : List Bool) (i : Nat) :
    bitAt (encodeVector bits) i = bits.getD i false := by
  have size := length_encodeVector bits
  rw [octetCount] at size
  by_cases inside : i < 8 * (encodeVector bits).length
  · have unpacked := getElem?_unpack (encodeVector bits) i
    rw [if_pos inside, unpack_encodeVector] at unpacked
    rw [List.getD_eq_getElem?_getD]
    by_cases short : i < bits.length
    · rw [List.getElem?_append_left short] at unpacked
      rw [unpacked, Option.getD_some]
    · rw [List.getElem?_append_right (Nat.not_lt.1 short), List.getElem?_replicate] at unpacked
      rw [List.getElem?_eq_none (Nat.not_lt.1 short), Option.getD_none]
      split at unpacked
      · exact (Option.some.inj unpacked).symm
      · simp at unpacked
  · rw [bitAt_of_le (Nat.not_lt.1 inside), List.getD_eq_getElem?_getD,
      List.getElem?_eq_none (by omega), Option.getD_none]

theorem below_encodeVector {bits : List Bool} {k : Nat} (inside : k ≤ bits.length) :
    below (encodeVector bits) k = bits.take k := by
  have size := length_encodeVector bits
  rw [octetCount] at size
  rw [← decode_eq_below (by omega), decode, unpack_encodeVector,
    List.take_append_of_le_length inside]

theorem highestAt_encodeList (bits : List Bool) : HighestAt (encodeList bits) bits.length := by
  rw [encodeList]
  constructor
  · rw [bitAt_encodeVector]
    simp
  · intro i above
    have short : (bits ++ [true]).length ≤ i := by
      rw [List.length_append, List.length_singleton]
      omega
    rw [bitAt_encodeVector, List.getD_eq_getElem?_getD, List.getElem?_eq_none short,
      Option.getD_none]

theorem below_encodeList (bits : List Bool) : below (encodeList bits) bits.length = bits := by
  rw [encodeList, below_encodeVector (by simp), List.take_left]

/-- A bit list is read back with its length. -/
theorem listLength?_encodeList (bits : List Bool) :
    listLength? (encodeList bits) = some bits.length := by
  have highest := highestAt_encodeList bits
  have size := length_encodeVector (bits ++ [true])
  rw [← encodeList, octetCount, List.length_append, List.length_singleton] at size
  rw [listLength?_eq_some]
  cases ends : (encodeList bits).getLast? with
  | none =>
      rw [List.getLast?_eq_none_iff.1 ends, List.length_nil] at size
      omega
  | some last =>
      refine ⟨last, rfl, ?_, highest⟩
      rintro rfl
      have set := highest.set
      rw [bitAt_of_getLast? ends (by omega)] at set
      simp at set

/-! ## Octets are written from their bits -/

theorem eq_of_unpack_eq {octets octets' : Octets} (size : octets.length = octets'.length)
    (same : unpack octets = unpack octets') : octets = octets' := by
  rw [← pack_unpack octets, ← pack_unpack octets', size, same]

/-- Octets with no bit set from `k` on are the first `k` bits and zeros behind them. -/
theorem unpack_eq_append {octets : Octets} {k : Nat} (room : k ≤ 8 * octets.length)
    (clear : ∀ i, k ≤ i → bitAt octets i = false) :
    unpack octets = decode k octets ++ List.replicate (8 * octets.length - k) false := by
  have decoded : (decode k octets).length = k := by rw [decode_eq_below room, length_below]
  apply List.ext_getElem?
  intro i
  rw [getElem?_unpack]
  by_cases inside : i < k
  · rw [if_pos (by omega), List.getElem?_append_left (by omega), decode,
      List.getElem?_take_of_lt inside, getElem?_unpack, if_pos (by omega)]
  · rw [List.getElem?_append_right (by omega), List.getElem?_replicate, decoded]
    by_cases present : i < 8 * octets.length
    · rw [if_pos present, if_pos (by omega), clear i (by omega)]
    · rw [if_neg present, if_neg (by omega)]

theorem encodeVector_decode {octets : Octets} {length : Nat}
    (exact : octets.length = octetCount length)
    (clear : ∀ i, length ≤ i → bitAt octets i = false) :
    encodeVector (decode length octets) = octets := by
  have room : length ≤ 8 * octets.length := by
    rw [exact, octetCount]
    omega
  have decoded : (decode length octets).length = length := by
    rw [decode_eq_below room, length_below]
  apply eq_of_unpack_eq
  · rw [length_encodeVector, decoded, exact]
  · rw [unpack_encodeVector, unpack_eq_append room clear, decoded, exact]

/-- The bits below the highest one, with that one behind them. -/
theorem HighestAt.decode_succ {octets : Octets} {k : Nat} (atK : HighestAt octets k)
    (room : k < 8 * octets.length) : decode (k + 1) octets = decode k octets ++ [true] := by
  rw [decode, decode, List.take_add_one, getElem?_unpack, if_pos room, atK.set, Option.toList_some]

theorem encodeList_decode {octets : Octets} {k : Nat} (atK : HighestAt octets k)
    (size : octets.length = k / 8 + 1) : encodeList (decode k octets) = octets := by
  rw [encodeList, ← atK.decode_succ (by omega)]
  refine encodeVector_decode ?_ fun i above => atK.clear i above
  rw [octetCount]
  omega

end BlockWire.Bits
