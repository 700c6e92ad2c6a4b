/- # Bitfields and their octets

Which octets a bitfield is read from depends on its kind and its size alone: a vector of
`size` bits has just the octets it fills and no bit set behind its own (`vectorOctets`), a
list has a last octet that is not zero and its highest bit no further than its limit
(`listOctets`). Either way each bit is read from its position.

These octets and the bitfields of the size stand in one-to-one correspondence
(`Exchanges`), with writing as the way back. One argument serves both kinds: what is
written for a value is read as that value, and what is read from octets is written as
those octets. -/
import BlockWire.Proofs.Wire.Canonical
import BlockWire.Proofs.Wire.Reading
import Mathlib.Data.Set.Function

namespace BlockWire

set_option autoImplicit false

namespace Bits

/-- Octets of a bit vector: as many as it fills, the last perhaps in part. -/
def vectorOctets (size : Nat) : Set Octets :=
  { octets | octets.length = (size + 7) / 8 ∧ ∀ i, size ≤ i → bitAt octets i = false }

/-- Octets of a bit list: the last one is not zero, and their highest bit marks a length
within the limit. -/
def listOctets (limit : Nat) : Set Octets :=
  { octets | (∃ last, octets.getLast? = some last ∧ last ≠ 0) ∧
      ∃ k ≤ limit, HighestAt octets k }

/-- The bits in question are those at the first positions. -/
theorem eq_below_iff {bits : List Bool} {octets : Octets} {k : Nat} :
    bits = below octets k ↔ bits.length = k ∧ ∀ i < k, bits[i]? = some (bitAt octets i) := by
  have entry : ∀ i, i < k → (below octets k)[i]? = some (bitAt octets i) := by
    intro i inside
    simp [below, inside]
  constructor
  · rintro rfl
    exact ⟨length_below octets k, entry⟩
  · rintro ⟨size, each⟩
    apply List.ext_getElem?
    intro i
    by_cases inside : i < k
    · rw [each i inside, entry i inside]
    · rw [List.getElem?_eq_none (by omega),
        List.getElem?_eq_none (by rw [length_below]; omega)]

end Bits

namespace Wire

variable {size : Nat} {octets : Octets}

/-! ## Reading from octets -/

theorem fromHex_hexText (octets : Octets) : fromHex (hexText octets) = .ok octets :=
  fromHex_eq_ok.2 ⟨_, rfl, spells_encode octets⟩

theorem ne_null_of_fromHex {j : Json} (hex : fromHex j = .ok octets) : j ≠ .null := by
  rintro rfl
  simp [fromHex] at hex

theorem fromJson_bitvector_of_hex {j : Json} (hex : fromHex j = .ok octets) {v : Value} :
    fromJson (.bitvector size) j = .ok v ↔
      octets ∈ Bits.vectorOctets size ∧ v = .bitvector (Bits.below octets size) := by
  simp only [fromJson, present_eq_ok, map_eq_ok, bitvectorFromJson_eq_ok, exactBytes_eq_ok, hex,
    Except.ok.injEq]
  constructor
  · rintro ⟨-, bits, ⟨_, ⟨rfl, exact⟩, clear, rfl⟩, rfl⟩
    exact ⟨⟨exact, clear⟩, rfl⟩
  · rintro ⟨⟨exact, clear⟩, rfl⟩
    exact ⟨ne_null_of_fromHex hex, _, ⟨_, ⟨rfl, exact⟩, clear, rfl⟩, rfl⟩

theorem fromJson_bitlist_of_hex {j : Json} (hex : fromHex j = .ok octets) {v : Value} :
    fromJson (.bitlist size) j = .ok v ↔
      (∃ last, octets.getLast? = some last ∧ last ≠ 0) ∧
        ∃ k ≤ size, Bits.HighestAt octets k ∧ v = .bitlist (Bits.below octets k) := by
  simp only [fromJson, present_eq_ok, map_eq_ok, bitlistFromJson_eq_ok, hex, Except.ok.injEq]
  constructor
  · rintro ⟨-, bits, ⟨_, last, k, rfl, ends, nonzero, highest, within, rfl⟩, rfl⟩
    exact ⟨⟨last, ends, nonzero⟩, k, within, highest, rfl⟩
  · rintro ⟨⟨last, ends, nonzero⟩, k, within, highest, rfl⟩
    exact ⟨ne_null_of_fromHex hex, _,
      ⟨_, last, k, rfl, ends, nonzero, highest, within, rfl⟩, rfl⟩

/-! ## There and back -/

/-- Reading the hex of octets at a type and writing its values undo each other, between
these octets and these values. -/
structure Exchanges (type : Ty) (octets : Set Octets) (values : Set Value) : Prop where
  accepts : ∀ {o}, o ∈ octets ↔ ∃ v, fromJson type (hexText o) = .ok v
  bijective : Set.BijOn (fun o => fromJson type (hexText o)) octets (Except.ok '' values)
  written : ∀ {o v}, fromJson type (hexText o) = .ok v → toJson v = hexText o
  read : ∀ {v}, v ∈ values → fromJson type (toJson v) = .ok v
  injective : ∀ {o o' v}, fromJson type (hexText o) = .ok v →
    fromJson type (hexText o') = .ok v → o = o'

theorem hexText_injective : Function.Injective hexText := by
  intro o o' same
  have hex := fromHex_hexText o
  rw [same, fromHex_hexText] at hex
  exact (Except.ok.inj hex).symm

/-- What is read is written again and what is written is read again: the rest follows. -/
theorem exchanges_of_inverse {type : Ty} {octets : Set Octets} {values : Set Value}
    (accepts : ∀ {o}, o ∈ octets ↔ ∃ v, fromJson type (hexText o) = .ok v)
    (sound : ∀ {o v}, fromJson type (hexText o) = .ok v → v ∈ values ∧ toJson v = hexText o)
    (complete : ∀ {v}, v ∈ values →
      ∃ o, toJson v = hexText o ∧ fromJson type (hexText o) = .ok v) :
    Exchanges type octets values := by
  have injective : ∀ {o o' v}, fromJson type (hexText o) = .ok v →
      fromJson type (hexText o') = .ok v → o = o' := by
    intro o o' v here there
    apply hexText_injective
    rw [← (sound here).2, ← (sound there).2]
  constructor
  case accepts => exact accepts
  case written => exact fun found => (sound found).2
  case injective => exact injective
  case read =>
    intro v mem
    obtain ⟨o, same, found⟩ := complete mem
    rw [same, found]
  case bijective =>
    refine ⟨?_, ?_, ?_⟩
    · intro o mem
      obtain ⟨v, found⟩ := accepts.1 mem
      exact ⟨v, (sound found).1, found.symm⟩
    · intro o mem o' _ same
      obtain ⟨v, found⟩ := accepts.1 mem
      exact injective found (same.symm.trans found)
    · rintro _ ⟨v, mem, rfl⟩
      obtain ⟨o, -, found⟩ := complete mem
      exact ⟨o, accepts.2 ⟨v, found⟩, found⟩

theorem exchanges_bitvector (size : Nat) :
    Exchanges (.bitvector size) (Bits.vectorOctets size)
      (Value.bitvector '' { bits | bits.length = size }) := by
  have reads {o : Octets} {v : Value} := @fromJson_bitvector_of_hex size o _ (fromHex_hexText o) v
  apply exchanges_of_inverse
  · intro o
    constructor
    · intro mem
      exact ⟨_, reads.2 ⟨mem, rfl⟩⟩
    · rintro ⟨v, found⟩
      exact (reads.1 found).1
  · intro o v found
    obtain ⟨⟨exact, clear⟩, rfl⟩ := reads.1 found
    refine ⟨⟨_, Bits.length_below o size, rfl⟩, ?_⟩
    rw [toJson, encodeVector_below exact clear]
  · rintro _ ⟨bits, rfl, rfl⟩
    exact ⟨_, rfl, fromJson_bitvector.2 (denotes_bitvector bits)⟩

theorem exchanges_bitlist (limit : Nat) :
    Exchanges (.bitlist limit) (Bits.listOctets limit)
      (Value.bitlist '' { bits | bits.length ≤ limit }) := by
  have reads {o : Octets} {v : Value} := @fromJson_bitlist_of_hex limit o _ (fromHex_hexText o) v
  apply exchanges_of_inverse
  · intro o
    constructor
    · rintro ⟨ends, k, within, highest⟩
      exact ⟨_, reads.2 ⟨ends, k, within, highest, rfl⟩⟩
    · rintro ⟨v, found⟩
      obtain ⟨ends, k, within, highest, -⟩ := reads.1 found
      exact ⟨ends, k, within, highest⟩
  · intro o v found
    obtain ⟨⟨last, ends, nonzero⟩, k, within, highest, rfl⟩ := reads.1 found
    refine ⟨⟨_, by rwa [Set.mem_ofPred_eq, Bits.length_below], rfl⟩, ?_⟩
    rw [toJson, encodeList_below ends nonzero highest]
  · rintro _ ⟨bits, within, rfl⟩
    exact ⟨_, rfl, fromJson_bitlist.2 (denotes_bitlist within)⟩

/-- Bitfields of every size: which octets they are read from, however the digits of those are
written, with each bit from its position; and that reading is one-to-one onto the vectors of
the size and onto the lists within the limit. -/
theorem fromJson_bitfields_bijective (size : Nat) :
    (∀ digits octets, Hex.Spells digits octets → ∀ v,
      (fromJson (.bitvector size) (.str (hexMark ++ digits)) = .ok v ↔
        octets.length = (size + 7) / 8 ∧ (∀ i, size ≤ i → Bits.bitAt octets i = false) ∧
          ∃ bits, v = .bitvector bits ∧ bits.length = size ∧
            ∀ i < size, bits[i]? = some (Bits.bitAt octets i)) ∧
      (fromJson (.bitlist size) (.str (hexMark ++ digits)) = .ok v ↔
        (∃ last, octets.getLast? = some last ∧ last ≠ 0) ∧
          ∃ k ≤ size, Bits.HighestAt octets k ∧
            ∃ bits, v = .bitlist bits ∧ bits.length = k ∧
              ∀ i < k, bits[i]? = some (Bits.bitAt octets i))) ∧
    Exchanges (.bitvector size) (Bits.vectorOctets size)
      (Value.bitvector '' { bits | bits.length = size }) ∧
    Exchanges (.bitlist size) (Bits.listOctets size)
      (Value.bitlist '' { bits | bits.length ≤ size }) := by
  refine ⟨?_, exchanges_bitvector size, exchanges_bitlist size⟩
  intro digits octets spelled v
  have hex : fromHex (.str (hexMark ++ digits)) = .ok octets :=
    fromHex_eq_ok.2 ⟨digits, rfl, spelled⟩
  constructor
  · simp only [fromJson_bitvector_of_hex hex, ← Bits.eq_below_iff, exists_eq_right]
    exact and_assoc
  · simp only [fromJson_bitlist_of_hex hex, ← Bits.eq_below_iff, exists_eq_right]

/-- A list that fills its octets has its mark in one more. -/
example : fromJson (.bitlist 8) (hexText [0xff, 0x01]) = .ok (.bitlist (List.replicate 8 true)) := by
  rfl

end Wire

end BlockWire
