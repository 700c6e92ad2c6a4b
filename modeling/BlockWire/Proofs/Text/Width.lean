/- # How many octets a text takes

A document is read as no more code points than it has octets, whichever encoding it shows,
and as just as many only where each octet is a code point by itself (`FitsOctets`,
`fitsOctets_of_decode`): no mark stands in front then, and no code point takes two octets
or more. So the number of octets alone keeps out every other way to write a text of known
length in ASCII. -/
import BlockWire.Proofs.Outcome
import BlockWire.Proofs.Text.Utf8
import BlockWire.Text.Encoding

namespace BlockWire

set_option autoImplicit false

/-- No more code points than octets, and as many only if each is that of one octet. -/
def FitsOctets (t : Text) (octets : Octets) : Prop :=
  t.length ≤ octets.length ∧
    (t.length = octets.length → t = octets.map fun b => .ofNat b.toNat)

namespace Utf8

variable {surrogates : Bool} {position : Nat} {octets : Octets} {t : Text}

/-- The first code point is that of the first octet, or takes more of them. -/
theorem exists_left_of_collect {b : UInt8} {rest : Octets}
    (read : collect position (piecesFrom surrogates none (b :: rest)) = .ok t) :
    ∃ c more left position', t = c :: more ∧
      collect position' (piecesFrom surrogates none left) = .ok more ∧
      (c = .ofNat b.toNat ∧ left = rest ∨ left.length < rest.length) := by
  rcases start_of_collect read with ⟨-, more, rfl, later⟩ | ⟨-, -, later⟩ | ⟨-, -, later⟩ |
    ⟨-, -, later⟩
  · exact ⟨_, more, rest, _, rfl, later, .inl ⟨rfl, rfl⟩⟩
  · obtain ⟨b₁, left, more, rfl, -, -, rfl, behind⟩ := collect_last later
    refine ⟨_, more, left, _, rfl, behind, .inr ?_⟩
    simp only [List.length_cons]
    omega
  · obtain ⟨b₁, rest, rfl, -, -, later⟩ := collect_more later
    obtain ⟨b₂, left, more, rfl, -, -, rfl, behind⟩ := collect_last later
    refine ⟨_, more, left, _, rfl, behind, .inr ?_⟩
    simp only [List.length_cons]
    omega
  · obtain ⟨b₁, rest, rfl, -, -, later⟩ := collect_more later
    obtain ⟨b₂, rest, rfl, -, -, later⟩ := collect_more later
    obtain ⟨b₃, left, more, rfl, -, -, rfl, behind⟩ := collect_last later
    refine ⟨_, more, left, _, rfl, behind, .inr ?_⟩
    simp only [List.length_cons]
    omega

theorem fitsOctets_of_collect
    (read : collect position (piecesFrom surrogates none octets) = .ok t) :
    FitsOctets t octets := by
  -- What stands behind a code point is shorter, so the octets are counted down.
  induction size : octets.length using Nat.strongRecOn generalizing octets t position with
  | _ n ih =>
      cases octets with
      | nil =>
          obtain rfl := Except.ok.inj read
          exact ⟨Nat.le_refl _, fun _ => rfl⟩
      | cons b rest =>
          rw [List.length_cons] at size
          obtain ⟨c, more, left, position', rfl, later, alone | longer⟩ :=
            exists_left_of_collect read
          · obtain ⟨rfl, rfl⟩ := alone
            obtain ⟨fewer, same⟩ := ih left.length (by omega) later rfl
            constructor
            · simpa using fewer
            · intro equal
              rw [List.map_cons, same (by simpa using equal)]
          · obtain ⟨fewer, -⟩ := ih left.length (by omega) later rfl
            simp only [FitsOctets, List.length_cons]
            exact ⟨by omega, fun equal => by omega⟩

end Utf8

namespace Wide

theorem length_of_decode16 {order : ByteOrder} {origin : Nat} {octets : Octets} {t : Text}
    (read : decode16 order origin octets = .ok t) : 2 * t.length ≤ octets.length := by
  unfold decode16 at read
  split at read
  · obtain rfl := Except.ok.inj read
    have units := length_units16 order octets
    have joined := length_joinPairs_le (units16 order octets)
    omega
  · simp at read

theorem length_of_decode32 {order : ByteOrder} {position : Nat} {octets : Octets} {t : Text}
    (read : decode32 order position octets = .ok t) : 4 * t.length = octets.length := by
  fun_induction decode32 order position octets generalizing t with
  | case1 =>
      obtain rfl := Except.ok.inj read
      rfl
  | case2 position a b c d rest =>
      rename_i ih
      cases behind : decode32 order (position + 4) rest with
      | error fault => simp [behind, Except.map] at read
      | ok more =>
          rw [behind] at read
          obtain rfl := Except.ok.inj read
          have later := ih behind
          simp only [List.length_cons]
          omega
  | case3 => simp at read
  | case4 => simp at read

end Wide

namespace Encoding

/-- A mark takes at least two octets. -/
theorem length_of_ofMark? {octets : Octets} {s : Sniffed} (marked : ofMark? octets = some s) :
    s.body.length + 2 ≤ octets.length := by
  unfold ofMark? at marked
  split at marked
  case h_6 => simp at marked
  all_goals
    obtain rfl := Option.some.inj marked
    simp only [List.length_cons]
    omega

theorem body_of_sniff (octets : Octets) :
    (sniff octets).body = octets ∨ (sniff octets).body.length < octets.length := by
  unfold sniff
  cases marked : ofMark? octets with
  | none => exact .inl rfl
  | some s =>
      have shorter := length_of_ofMark? marked
      exact .inr (by simpa using by omega)

theorem fitsOctets_of_sniffed {s : Sniffed} {octets : Octets} {t : Text}
    (read : s.decode octets = .ok t) : FitsOctets t s.body := by
  -- Two octets or more to a code point are enough only for no code point at all.
  have wide {n : Nat} (several : 2 ≤ n) (count : n * t.length ≤ s.body.length) :
      FitsOctets t s.body := by
    have twice : 2 * t.length ≤ s.body.length :=
      Nat.le_trans (Nat.mul_le_mul_right _ several) count
    refine ⟨by omega, fun equal => ?_⟩
    rw [List.eq_nil_of_length_eq_zero (show t.length = 0 by omega),
      List.eq_nil_of_length_eq_zero (show s.body.length = 0 by omega), List.map_nil]
  unfold Sniffed.decode at read
  cases encoding : s.encoding with
  | utf8 =>
      rw [encoding] at read
      exact Utf8.fitsOctets_of_collect (mapError_eq_ok.1 read)
  | utf16 order =>
      rw [encoding] at read
      exact wide (Nat.le_refl 2) (Wide.length_of_decode16 (mapError_eq_ok.1 read))
  | utf32 order =>
      rw [encoding] at read
      exact wide (by decide) (Nat.le_of_eq (Wide.length_of_decode32 (mapError_eq_ok.1 read)))

theorem fitsOctets_of_decode {octets : Octets} {t : Text} (read : decode octets = .ok t) :
    FitsOctets t octets := by
  have fits := fitsOctets_of_sniffed read
  rcases body_of_sniff octets with whole | shorter
  · rwa [whole] at fits
  · obtain ⟨fewer, -⟩ := fits
    exact ⟨by omega, fun equal => by omega⟩

end Encoding

end BlockWire
