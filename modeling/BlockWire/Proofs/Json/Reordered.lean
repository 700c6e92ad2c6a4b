/- # Values with their keys in another order

`Reordered` says that two values differ in the order of keys alone, at whatever level. It
looks at what stands under each key and not at where it stands, so it does not depend on
how many members there are.

Comparing by `same` counts the members of two objects instead, and looks up the keys of one
in the other alone. For a value without repeated keys, as everything is that is read, that
is enough (`Reordered.of_same`). -/
import BlockWire.Proofs.Json.Levels

namespace BlockWire.Json

set_option autoImplicit false

inductive Reordered : Json → Json → Prop where
  | refl (j : Json) : Reordered j j
  | arr {xs ys : List Json} (each : List.Forall₂ Reordered xs ys) :
      Reordered (.arr xs) (.arr ys)
  | obj {ms ns : Keyed Json} (keys : ∀ key, key ∈ Keyed.keys ms ↔ key ∈ Keyed.keys ns)
      (each : ∀ key x y, Keyed.get? ms key = some x → Keyed.get? ns key = some y →
        Reordered x y) :
      Reordered (.obj ms) (.obj ns)

/-- Under a key stands nothing in both objects, or what differs in the order of keys alone. -/
theorem Reordered.get? {ms ns : Keyed Json} (reordered : Reordered (.obj ms) (.obj ns))
    (key : Text) :
    (Keyed.get? ms key = none ∧ Keyed.get? ns key = none) ∨
      ∃ x y, Keyed.get? ms key = some x ∧ Keyed.get? ns key = some y ∧ Reordered x y := by
  cases reordered with
  | refl =>
      cases found : Keyed.get? ms key with
      | none => exact .inl ⟨rfl, rfl⟩
      | some x => exact .inr ⟨x, x, rfl, rfl, .refl x⟩
  | obj keys each =>
      cases here : Keyed.get? ms key with
      | none =>
          have absent := (Keyed.get?_eq_none_iff ms key).1 here
          rw [keys, ← Keyed.get?_eq_none_iff] at absent
          exact .inl ⟨rfl, absent⟩
      | some x =>
          have present := (keys key).1 (Keyed.mem_keys_of_get? here)
          cases there : Keyed.get? ns key with
          | none => exact absurd present ((Keyed.get?_eq_none_iff ns key).1 there)
          | some y => exact .inr ⟨x, y, rfl, rfl, each key x y here there⟩

theorem Reordered.mem_keys_iff {ms ns : Keyed Json} (reordered : Reordered (.obj ms) (.obj ns))
    (key : Text) : key ∈ Keyed.keys ms ↔ key ∈ Keyed.keys ns := by
  cases reordered with
  | refl => rfl
  | obj keys => exact keys key

theorem sameItems_iff {xs ys : List Json} :
    sameItems xs ys = true ↔ List.Forall₂ (fun x y => same x y = true) xs ys := by
  induction xs generalizing ys with
  | nil => cases ys <;> simp [sameItems]
  | cons x xs ih => cases ys <;> simp [sameItems, ih]

theorem sameMembers_iff {ms ns : Keyed Json} :
    sameMembers ms ns = true ↔ ∀ member ∈ ms, ∃ other,
      Keyed.get? ns member.1 = some other ∧ same member.2 other = true := by
  induction ms with
  | nil => simp [sameMembers]
  | cons member rest ih =>
      obtain ⟨key, value⟩ := member
      rw [sameMembers, Bool.and_eq_true, ih, List.forall_mem_cons]
      cases Keyed.get? ns key <;> simp

/-- In a value without repeated keys, comparing finds whatever differs beyond the order. -/
theorem Reordered.of_same {depth : Nat} {j j' : Json} (formed : Formed depth j)
    (same : Json.same j j' = true) : Reordered j j' := by
  induction formed generalizing j' with
  | @arr depth xs _ ih =>
      cases j' with
      | arr ys =>
          rw [Json.same, sameItems_iff] at same
          apply Reordered.arr
          have inside := (List.forall₂_and_left xs ys).2 ⟨ih, same⟩
          exact inside.imp fun x y found => found.1 found.2
      | _ => simp [Json.same] at same
  | @obj depth ms distinct _ ih =>
      cases j' with
      | obj ns =>
          rw [Json.same, Bool.and_eq_true, beq_iff_eq, sameMembers_iff] at same
          obtain ⟨count, each⟩ := same
          apply Reordered.obj
          · apply Keyed.mem_keys_iff distinct count
            intro key known
            obtain ⟨member, mem, rfl⟩ := List.mem_map.1 known
            obtain ⟨other, found, -⟩ := each member mem
            exact Keyed.mem_keys_of_get? found
          · intro key x y here there
            have mem := Keyed.mem_of_get? here
            obtain ⟨other, found, alike⟩ := each (key, x) mem
            obtain rfl := Option.some.inj (there.symm.trans found)
            exact ih (key, x) mem alike
      | _ => simp [Json.same] at same
  | _ =>
      -- What has nothing inside is compared as it is.
      cases j' <;> simp_all [Json.same, Reordered.refl]

end BlockWire.Json
