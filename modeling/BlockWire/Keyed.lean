/- # Keyed lists

What an object with repeated keys denotes: each key keeps the place of its first
occurrence and the value of its last. -/
import BlockWire.Text.CodePoint

namespace BlockWire

set_option autoImplicit false

abbrev Keyed (α : Type) := List (Text × α)

namespace Keyed

variable {α : Type}

def keys (members : Keyed α) : List Text := members.map Prod.fst

def insert (members : Keyed α) (key : Text) (value : α) : Keyed α :=
  match members with
  | [] => [(key, value)]
  | (k, v) :: rest => if k = key then (k, value) :: rest else (k, v) :: insert rest key value

def ofPairs (pairs : List (Text × α)) : Keyed α :=
  pairs.foldl (fun members pair => insert members pair.1 pair.2) []

def get? (members : Keyed α) (key : Text) : Option α :=
  match members with
  | [] => none
  | (k, v) :: rest => if k = key then some v else get? rest key

/-- The first key that `known` does not hold. -/
def firstUnknown? (known : List Text) (members : Keyed α) : Option Text :=
  (keys members).find? fun key => !known.contains key

/-! ## What each operation does to look-up and to the keys -/

theorem get?_insert (members : Keyed α) (key other : Text) (value : α) :
    get? (insert members key value) other =
      if key = other then some value else get? members other := by
  induction members with
  | nil => rfl
  | cons member rest ih =>
      obtain ⟨k, v⟩ := member
      by_cases same : k = key
      · subst same
        by_cases found : k = other <;> simp [insert, get?, found]
      · by_cases found : k = other
        · subst found
          simp [insert, get?, same, Ne.symm same]
        · simp [insert, get?, same, found, ih]

theorem keys_insert (members : Keyed α) (key : Text) (value : α) :
    keys (insert members key value) =
      if key ∈ keys members then keys members else keys members ++ [key] := by
  induction members with
  | nil => rfl
  | cons member rest ih =>
      obtain ⟨k, v⟩ := member
      by_cases same : k = key
      · simp [insert, keys, same]
      · simp only [keys, List.map_cons, List.mem_cons] at ih ⊢
        by_cases known : key ∈ List.map Prod.fst rest <;>
          simp [insert, same, Ne.symm same, known, ih]

theorem get?_eq_none_iff (members : Keyed α) (key : Text) :
    get? members key = none ↔ key ∉ keys members := by
  induction members with
  | nil => simp [get?, keys]
  | cons member rest ih =>
      obtain ⟨k, v⟩ := member
      by_cases same : k = key
      · simp [get?, keys, same]
      · simp [get?, keys, same, Ne.symm same, ih] at ih ⊢

theorem insert_of_not_mem {members : Keyed α} {key : Text} (value : α)
    (fresh : key ∉ keys members) : insert members key value = members ++ [(key, value)] := by
  induction members with
  | nil => rfl
  | cons member rest ih =>
      obtain ⟨k, v⟩ := member
      simp only [keys, List.map_cons, List.mem_cons, not_or] at fresh
      simp [insert, Ne.symm fresh.1, ih fresh.2]

end Keyed

end BlockWire
