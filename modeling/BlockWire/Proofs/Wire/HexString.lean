/- # Which strings are hex strings

`Hex.Spells` is the notation itself: two digits to an octet, the high half first, in
either case. `fromHex_eq_ok` says that reading takes exactly the strings that put
the mark before such digits, and `exists_spells_iff` that digits spell octets as
soon as their number is even and each of them is a hex digit. -/
import BlockWire.Wire.Shape
import BlockWire.Proofs.Outcome
import BlockWire.Proofs.Json.Token

namespace BlockWire

set_option autoImplicit false

namespace Hex

/-- Digits that spell octets. -/
inductive Spells : Text → Octets → Prop where
  | nil : Spells [] []
  | octet {high low : CodePoint} {h l : Nat} {digits : Text} {octets : Octets}
      (first : digit? high = some h) (second : digit? low = some l)
      (tail : Spells digits octets) :
      Spells (high :: low :: digits) (.ofNat (h * 16 + l) :: octets)

theorem decode_eq_some {digits : Text} {octets : Octets} :
    decode digits = some octets ↔ Spells digits octets := by
  constructor
  · intro read
    fun_induction decode digits generalizing octets with
    | case1 =>
        cases read
        exact .nil
    | case2 => simp at read
    | case3 high low rest ih =>
        simp only [Option.bind_eq_bind, Option.bind_eq_some_iff, Option.pure_def,
          Option.some.injEq] at read
        obtain ⟨h, first, l, second, later, tail, rfl⟩ := read
        exact .octet first second (ih tail)
  · intro spelled
    induction spelled with
    | nil => rfl
    | octet first second _ ih => simp [decode, first, second, ih]

theorem Spells.length {digits : Text} {octets : Octets} (spelled : Spells digits octets) :
    digits.length = 2 * octets.length :=
  length_of_decode (decode_eq_some.2 spelled)

/-- Any even number of hex digits spells octets. -/
theorem exists_spells_iff {digits : Text} :
    (∃ octets, Spells digits octets) ↔
      digits.length % 2 = 0 ∧ ∀ c ∈ digits, isDigit c = true := by
  constructor
  · rintro ⟨octets, spelled⟩
    refine ⟨by rw [spelled.length]; omega, ?_⟩
    induction spelled with
    | nil => simp
    | octet first second _ ih => simpa [isDigit, first, second] using ih
  · rintro ⟨even, all⟩
    fun_induction decode digits with
    | case1 => exact ⟨[], .nil⟩
    | case2 => simp at even
    | case3 high low rest ih =>
        simp only [List.forall_mem_cons, isDigit, Option.isSome_iff_exists] at all
        obtain ⟨⟨h, first⟩, ⟨l, second⟩, later⟩ := all
        simp only [List.length_cons] at even
        obtain ⟨octets, tail⟩ := ih (by omega)
          (by simpa only [isDigit, Option.isSome_iff_exists] using later)
        exact ⟨_, .octet first second tail⟩

theorem Spells.isDigit {digits : Text} {octets : Octets} (spelled : Spells digits octets) :
    ∀ c ∈ digits, Hex.isDigit c = true :=
  (exists_spells_iff.1 ⟨octets, spelled⟩).2

theorem decode_eq_none_iff {digits : Text} (even : digits.length % 2 = 0) :
    decode digits = none ↔ digits.all isDigit = false := by
  have spelled := @exists_spells_iff digits
  simp only [← decode_eq_some, even, true_and] at spelled
  rw [← Option.not_isSome_iff_eq_none, Option.isSome_iff_exists, spelled, ← List.all_eq_true,
    Bool.not_eq_true]

end Hex

namespace Wire

theorem fromHex_eq_ok {j : Json} {octets : Octets} :
    fromHex j = .ok octets ↔ ∃ digits, j = .str (hexMark ++ digits) ∧ Hex.Spells digits octets := by
  constructor
  · intro read
    unfold fromHex at read
    split at read
    next t =>
      split at read
      · simp at read
      next digits marked =>
        split at read
        · simp at read
        · split at read
          next found spelled =>
            cases read
            exact ⟨digits, by rw [Text.after?_eq_some.1 marked], Hex.decode_eq_some.1 spelled⟩
          · simp at read
    · simp at read
  · rintro ⟨digits, rfl, spelled⟩
    have marked : Text.after? hexMark (hexMark ++ digits) = some digits :=
      Text.after?_eq_some.2 rfl
    have even : ¬ digits.length % 2 ≠ 0 := by rw [spelled.length]; omega
    simp only [fromHex, marked, if_neg even, Hex.decode_eq_some.2 spelled]

theorem exactBytes_eq_ok {length : Nat} {j : Json} {octets : Octets} :
    exactBytes length j = .ok octets ↔ fromHex j = .ok octets ∧ octets.length = length := by
  simp only [exactBytes, bind_eq_ok, guard_eq_ok, Decidable.not_not, Except.ok.injEq]
  constructor
  · rintro ⟨found, read, exact, rfl⟩
    exact ⟨read, exact⟩
  · rintro ⟨read, exact⟩
    exact ⟨octets, read, exact, rfl⟩

theorem bytesWithin_eq_ok {limit : Nat} {j : Json} {octets : Octets} :
    bytesWithin limit j = .ok octets ↔ fromHex j = .ok octets ∧ octets.length ≤ limit := by
  simp only [bytesWithin, bind_eq_ok, guard_eq_ok, Nat.not_lt, Except.ok.injEq]
  constructor
  · rintro ⟨found, read, within, rfl⟩
    exact ⟨read, within⟩
  · rintro ⟨read, within⟩
    exact ⟨octets, read, within, rfl⟩

end Wire

end BlockWire
