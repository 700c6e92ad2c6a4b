/- # Reading does not depend on the order of keys

A type looks for its fields by their names, and only asks of the keys of an object which
they are. So values that differ in the order of keys alone denote the same, at every type
(`denotes_reordered`): below a container by what stands under each field, below a
sequence item by item. No other type has a value in it that holds keys. -/
import BlockWire.Proofs.Json.Reordered
import BlockWire.Proofs.Wire.Reading

namespace BlockWire.Wire

set_option autoImplicit false

open Json (Reordered)

theorem denotesEach_reordered {element : Ty}
    (agree : ∀ {j j' : Json}, Reordered j j' → ∀ {v : Value},
      Denotes element j v ↔ Denotes element j' v)
    {items items' : List Json} (each : List.Forall₂ Reordered items items')
    {values : List Value} :
    DenotesEach element items values ↔ DenotesEach element items' values := by
  rw [denotesEach_iff, denotesEach_iff]
  induction each generalizing values with
  | nil => rfl
  | cons head _ ih => simp only [List.forall₂_cons_left_iff, agree head, ih]

theorem denotesFields_cons {name : Text} {type : Ty} {fields : List (Text × Ty)}
    {members : Keyed Json} {values : List (Text × Value)} :
    DenotesFields ((name, type) :: fields) members values ↔
      ∃ j, Keyed.get? members name = some j ∧ ∃ v, Denotes type j v ∧
        ∃ rest, DenotesFields fields members rest ∧ values = (name, v) :: rest := by
  constructor
  · intro each
    cases each with
    | cons found head tail => exact ⟨_, found, _, head, _, tail, rfl⟩
  · rintro ⟨j, found, v, head, rest, tail, rfl⟩
    exact .cons found head tail

theorem denotesFields_reordered {fields : List (Text × Ty)}
    (agree : ∀ field ∈ fields, ∀ {j j' : Json}, Reordered j j' → ∀ {v : Value},
      Denotes field.2 j v ↔ Denotes field.2 j' v)
    {members members' : Keyed Json} (reordered : Reordered (.obj members) (.obj members'))
    {values : List (Text × Value)} :
    DenotesFields fields members values ↔ DenotesFields fields members' values := by
  induction fields generalizing values with
  | nil =>
      constructor
      · rintro ⟨⟩
        exact .nil _
      · rintro ⟨⟩
        exact .nil _
  | cons field rest ih =>
      obtain ⟨name, type⟩ := field
      obtain ⟨here, later⟩ := List.forall_mem_cons.1 agree
      rw [denotesFields_cons, denotesFields_cons]
      simp only [ih later]
      rcases reordered.get? name with ⟨absent, absent'⟩ | ⟨x, y, found, found', under⟩
      · rw [absent, absent']
      · have agreed {v : Value} : Denotes type x v ↔ Denotes type y v := here under
        rw [found, found']
        simp only [Option.some.injEq, exists_eq_left', agreed]

/-! ## Rules for arrays and objects -/

theorem denotes_vector_arr {element : Ty} {length : Nat} {items : List Json} {v : Value} :
    Denotes (.vector element length) (.arr items) v ↔
      element.isByte = false ∧ items.length = length ∧
        ∃ values, DenotesEach element items values ∧ v = .seq values := by
  constructor
  · intro denoted
    cases denoted with
    | vector notBytes exact each => exact ⟨notBytes, exact, _, each, rfl⟩
  · rintro ⟨notBytes, exact, values, each, rfl⟩
    exact .vector notBytes exact each

theorem denotes_list_arr {element : Ty} {limit : Nat} {items : List Json} {v : Value} :
    Denotes (.list element limit) (.arr items) v ↔
      element.isByte = false ∧ items.length ≤ limit ∧
        ∃ values, DenotesEach element items values ∧ v = .seq values := by
  constructor
  · intro denoted
    cases denoted with
    | list notBytes within each => exact ⟨notBytes, within, _, each, rfl⟩
  · rintro ⟨notBytes, within, values, each, rfl⟩
    exact .list notBytes within each

theorem denotes_container_obj {name : Text} {fields : List (Text × Ty)} {members : Keyed Json}
    {v : Value} :
    Denotes (.container name fields) (.obj members) v ↔
      (∀ key, key ∈ Keyed.keys members ↔ key ∈ fields.map Prod.fst) ∧
        ∃ values, DenotesFields fields members values ∧ v = .record values := by
  constructor
  · intro denoted
    cases denoted with
    | container declared each => exact ⟨declared, _, each, rfl⟩
  · rintro ⟨declared, values, each, rfl⟩
    exact .container declared each

/-! ## Every type -/

/-- Values that differ in the order of keys alone denote the same. -/
theorem denotes_reordered {type : Ty} {j j' : Json} (reordered : Reordered j j') {v : Value} :
    Denotes type j v ↔ Denotes type j' v := by
  induction type using Ty.induction generalizing j j' v with
  | vector element length ih =>
      cases reordered with
      | refl => rfl
      | arr each =>
          simp only [denotes_vector_arr, each.length_eq, denotesEach_reordered ih each]
      | obj => constructor <;> rintro ⟨⟩
  | list element limit ih =>
      cases reordered with
      | refl => rfl
      | arr each =>
          simp only [denotes_list_arr, each.length_eq, denotesEach_reordered ih each]
      | obj => constructor <;> rintro ⟨⟩
  | container name fields ih =>
      cases reordered with
      | refl => rfl
      | arr => constructor <;> rintro ⟨⟩
      | obj keys each =>
          simp only [denotes_container_obj, keys, denotesFields_reordered ih (.obj keys each)]
  | _ =>
      cases reordered with
      | refl => rfl
      | _ => constructor <;> rintro ⟨⟩

theorem fromJson_reordered {type : Ty} {j j' : Json} (reordered : Reordered j j') {v : Value} :
    fromJson type j = .ok v ↔ fromJson type j' = .ok v := by
  rw [fromJson_eq_ok, fromJson_eq_ok, denotes_reordered reordered]

end BlockWire.Wire
