/- # Keyed lists side by side

Collecting pairs keeps each key at the place of its first occurrence (`keys_ofPairs`) with
the value of its last (`get?_ofPairs`).

Two keyed lists are `Related` when they hold the same keys in the same order and
related values under them. Collecting pairs keeps that (`Related.ofPairs`), so what
repeated keys denote does not depend on what is kept under them. -/
import BlockWire.Keyed
import Mathlib.Data.List.Forall2
import Mathlib.Data.List.Induction
import Mathlib.Data.List.Nodup
import Mathlib.Data.List.Perm.Subperm

namespace BlockWire.Keyed

set_option autoImplicit false

section

variable {α β : Type}

theorem firstUnknown?_eq_none {known : List Text} {members : Keyed α} :
    firstUnknown? known members = none ↔ ∀ key ∈ keys members, key ∈ known := by
  simp [firstUnknown?]

/-- Distinct keys are collected as they stand. -/
theorem foldl_insert_of_nodup {members : Keyed α} {pairs : List (Text × α)}
    (distinct : (keys (members ++ pairs)).Nodup) :
    pairs.foldl (fun members pair => insert members pair.1 pair.2) members = members ++ pairs := by
  induction pairs generalizing members with
  | nil => rw [List.foldl_nil, List.append_nil]
  | cons pair rest ih =>
      have parted : keys (members ++ pair :: rest) = keys members ++ pair.1 :: keys rest := by
        simp [keys]
      have fresh : pair.1 ∉ keys members := by
        rw [parted, List.nodup_append] at distinct
        intro known
        exact distinct.2.2 pair.1 known pair.1 List.mem_cons_self rfl
      rw [List.foldl_cons, insert_of_not_mem pair.2 fresh, ih]
      · rw [List.append_assoc, List.singleton_append]
      · rwa [List.append_assoc, List.singleton_append]

theorem ofPairs_of_nodup {pairs : List (Text × α)} (distinct : (keys pairs).Nodup) :
    ofPairs pairs = pairs := foldl_insert_of_nodup distinct

theorem get?_of_mem {members : Keyed α} (distinct : (keys members).Nodup) {member : Text × α}
    (mem : member ∈ members) : get? members member.1 = some member.2 := by
  induction members with
  | nil => simp at mem
  | cons first rest ih =>
      obtain ⟨k, v⟩ := first
      have fresh := List.nodup_cons.1 (show (k :: keys rest).Nodup from distinct)
      rcases List.mem_cons.1 mem with rfl | later
      · exact if_pos rfl
      · have other : k ≠ member.1 := by
          rintro rfl
          exact fresh.1 (List.mem_map_of_mem later)
        rw [get?, if_neg other]
        exact ih fresh.2 later

theorem mem_of_get? {members : Keyed α} {key : Text} {value : α}
    (found : get? members key = some value) : (key, value) ∈ members := by
  induction members with
  | nil => simp [get?] at found
  | cons member rest ih =>
      obtain ⟨k, v⟩ := member
      rw [get?] at found
      split at found
      next same =>
        obtain rfl := Option.some.inj found
        rw [same]
        exact List.mem_cons_self
      · exact List.mem_cons_of_mem _ (ih found)

theorem mem_keys_of_get? {members : Keyed α} {key : Text} {value : α}
    (found : get? members key = some value) : key ∈ keys members := by
  have stands := mem_of_get? found
  exact List.mem_map.2 ⟨_, stands, rfl⟩

/-- As many keys, all of them among the others, are all the others. -/
theorem mem_keys_iff {members : Keyed α} {others : Keyed β} (distinct : (keys members).Nodup)
    (count : members.length = others.length) (among : ∀ key ∈ keys members, key ∈ keys others)
    (key : Text) : key ∈ keys members ↔ key ∈ keys others := by
  have sizes : (keys others).length ≤ (keys members).length := by
    rw [keys, keys, List.length_map, List.length_map]
    exact Nat.le_of_eq count.symm
  have reordered := (List.Nodup.subperm distinct among).perm_of_length_le sizes
  exact reordered.mem_iff

theorem get?_mapValues (f : α → β) (members : Keyed α) (key : Text) :
    get? (members.map fun member => (member.1, f member.2)) key = (get? members key).map f := by
  induction members with
  | nil => rfl
  | cons member rest ih =>
      obtain ⟨k, v⟩ := member
      rw [List.map_cons, get?, get?, ih]
      split <;> rfl

/-! ## What repeated keys come to -/

theorem ofPairs_concat (pairs : List (Text × α)) (key : Text) (value : α) :
    ofPairs (pairs ++ [(key, value)]) = insert (ofPairs pairs) key value := by
  rw [ofPairs, List.foldl_append]
  rfl

/-- Each key is kept at the place of its first occurrence. -/
theorem keys_ofPairs (pairs : List (Text × α)) :
    keys (ofPairs pairs) = (keys pairs).eraseDups := by
  induction pairs using List.reverseRecOn with
  | nil => rfl
  | append_singleton front pair ih =>
      obtain ⟨key, value⟩ := pair
      have parted : keys (front ++ [(key, value)]) = keys front ++ [key] := by simp [keys]
      rw [ofPairs_concat, keys_insert, ih, parted, List.eraseDups_append]
      by_cases known : key ∈ keys front
      · simp [known, List.removeAll]
      · simp [known, List.removeAll, List.eraseDups_cons]

/-- Each key has the value of its last occurrence. -/
theorem get?_ofPairs (pairs : List (Text × α)) (key : Text) :
    get? (ofPairs pairs) key = get? pairs.reverse key := by
  induction pairs using List.reverseRecOn with
  | nil => rfl
  | append_singleton front pair ih =>
      obtain ⟨k, value⟩ := pair
      rw [ofPairs_concat, get?_insert, ih, List.reverse_append, List.reverse_singleton,
        List.singleton_append, get?]

theorem nodup_keys_insert {members : Keyed α} (distinct : (keys members).Nodup) (key : Text)
    (value : α) : (keys (insert members key value)).Nodup := by
  rw [keys_insert]
  split
  · exact distinct
  next fresh =>
    refine List.nodup_append.2 ⟨distinct, List.nodup_singleton key, ?_⟩
    intro known mem last inLast same
    rw [List.mem_singleton.1 inLast] at same
    exact fresh (same ▸ mem)

theorem nodup_keys_ofPairs (pairs : List (Text × α)) : (keys (ofPairs pairs)).Nodup := by
  induction pairs using List.reverseRecOn with
  | nil => exact List.nodup_nil
  | append_singleton front pair ih =>
      rw [ofPairs_concat]
      exact nodup_keys_insert ih pair.1 pair.2

/-- What is collected was there. -/
theorem mem_of_mem_ofPairs {pairs : List (Text × α)} {member : Text × α}
    (mem : member ∈ ofPairs pairs) : member ∈ pairs := by
  have found := get?_of_mem (nodup_keys_ofPairs pairs) mem
  rw [get?_ofPairs] at found
  exact List.mem_reverse.1 (mem_of_get? found)

theorem get?_append (xs ys : Keyed α) (key : Text) :
    get? (xs ++ ys) key = (get? xs key).or (get? ys key) := by
  induction xs with
  | nil => rfl
  | cons member rest ih =>
      obtain ⟨k, v⟩ := member
      rw [List.cons_append, get?, get?, ih]
      split <;> rfl

theorem get?_reverse_eq_none_iff {members : Keyed α} {key : Text} :
    get? members.reverse key = none ↔ key ∉ keys members := by
  rw [get?_eq_none_iff, keys, List.map_reverse, List.mem_reverse, keys]

/-- What stands before the last occurrence of a key does not matter. -/
theorem get?_ofPairs_of_last {before after : List (Text × α)} {key : Text} {value : α}
    (last : key ∉ keys after) :
    get? (ofPairs (before ++ (key, value) :: after)) key = some value := by
  rw [get?_ofPairs, List.reverse_append, List.reverse_cons, List.append_assoc, get?_append,
    get?_reverse_eq_none_iff.2 last]
  simp [get?]

/-- A pair in front of another with its key changes nothing. -/
theorem get?_ofPairs_of_again {before after : List (Text × α)} {key : Text} (value : α)
    (again : key ∈ keys after) (other : Text) :
    get? (ofPairs (before ++ (key, value) :: after)) other =
      get? (ofPairs (before ++ after)) other := by
  rw [get?_ofPairs, get?_ofPairs, List.reverse_append, List.reverse_append, List.reverse_cons,
    List.append_assoc, get?_append, get?_append, get?_append]
  by_cases same : key = other
  · subst same
    cases found : get? after.reverse key with
    | none => exact absurd again (get?_reverse_eq_none_iff.1 found)
    | some v => rfl
  · simp [get?, same]

/-- The first unknown key stands first whether or not repeated keys are put together. -/
theorem firstUnknown?_ofPairs (known : List Text) (pairs : List (Text × α)) :
    firstUnknown? known (ofPairs pairs) = firstUnknown? known pairs := by
  induction pairs using List.reverseRecOn with
  | nil => rfl
  | append_singleton front pair ih =>
      obtain ⟨key, value⟩ := pair
      have parted : keys (front ++ [(key, value)]) = keys front ++ [key] := by simp [keys]
      rw [firstUnknown?, firstUnknown?] at ih
      rw [firstUnknown?, firstUnknown?, ofPairs_concat, keys_insert, parted, List.find?_append,
        ← ih]
      split
      next stands =>
        by_cases unknown : key ∈ known
        · simp [unknown]
        · have found : ((keys (ofPairs front)).find? fun key => !known.contains key).isSome := by
            rw [List.find?_isSome]
            exact ⟨key, stands, by simpa using unknown⟩
          rw [Option.or_of_isSome found]
      · rw [List.find?_append]

theorem firstUnknown?_eq_some {known : List Text} {members : Keyed α} {key : Text} :
    firstUnknown? known members = some key ↔
      ∃ before value after, members = before ++ (key, value) :: after ∧ key ∉ known ∧
        ∀ member ∈ before, member.1 ∈ known := by
  rw [firstUnknown?, List.find?_eq_some_iff_append]
  constructor
  · rintro ⟨unknown, front, back, parted, earlier⟩
    obtain ⟨before, rest, rfl, rfl, behind⟩ := List.map_eq_append_iff.1 parted
    obtain ⟨⟨_, value⟩, after, rfl, rfl, -⟩ := List.map_eq_cons_iff.1 behind
    refine ⟨before, value, after, rfl, by simpa using unknown, ?_⟩
    simpa using earlier
  · rintro ⟨before, value, after, rfl, unknown, earlier⟩
    refine ⟨by simpa using unknown, before.map Prod.fst, after.map Prod.fst, by simp [keys], ?_⟩
    simpa using earlier

/-! ## Side by side -/

/-- The same keys in the same order, and related values under them. -/
def Related (R : α → β → Prop) (xs : Keyed α) (ys : Keyed β) : Prop :=
  List.Forall₂ (fun x y => x.1 = y.1 ∧ R x.2 y.2) xs ys

namespace Related

variable {R : α → β → Prop} {xs : Keyed α} {ys : Keyed β}

theorem keys_eq (related : Related R xs ys) : keys xs = keys ys := by
  induction related with
  | nil => rfl
  | cons head _ ih =>
      simp only [keys, List.map_cons] at ih ⊢
      rw [head.1, ih]

theorem insert (related : Related R xs ys) (key : Text) {x : α} {y : β} (here : R x y) :
    Related R (xs.insert key x) (ys.insert key y) := by
  induction related with
  | nil => exact .cons ⟨rfl, here⟩ .nil
  | @cons a b _ _ head tail ih =>
      obtain ⟨k, v⟩ := a
      obtain ⟨k', w⟩ := b
      obtain ⟨same, under⟩ := head
      obtain rfl : k = k' := same
      by_cases found : k = key
      · rw [Keyed.insert, Keyed.insert, if_pos found, if_pos found]
        exact .cons ⟨rfl, here⟩ tail
      · rw [Keyed.insert, Keyed.insert, if_neg found, if_neg found]
        exact .cons ⟨rfl, under⟩ ih

theorem ofPairs (related : Related R xs ys) :
    Related R (Keyed.ofPairs xs) (Keyed.ofPairs ys) := by
  have collected : ∀ {front : Keyed α} {front' : Keyed β}, Related R front front' →
      Related R (xs.foldl (fun members pair => Keyed.insert members pair.1 pair.2) front)
        (ys.foldl (fun members pair => Keyed.insert members pair.1 pair.2) front') := by
    induction related with
    | nil => exact fun same => same
    | cons head _ ih =>
        intro front front' same
        rw [List.foldl_cons, List.foldl_cons, head.1]
        exact ih (same.insert _ head.2)
  exact collected .nil

theorem get?_left (related : Related R xs ys) {key : Text} {x : α}
    (found : get? xs key = some x) : ∃ y, get? ys key = some y ∧ R x y := by
  induction related with
  | nil => simp [get?] at found
  | @cons a b _ _ head _ ih =>
      obtain ⟨k, v⟩ := a
      obtain ⟨k', w⟩ := b
      obtain ⟨same, under⟩ := head
      obtain rfl : k = k' := same
      rw [get?] at found ⊢
      split at found
      next here =>
        obtain rfl := Option.some.inj found
        exact ⟨w, if_pos here, under⟩
      next other =>
        rw [if_neg other]
        exact ih found

theorem get?_none (related : Related R xs ys) {key : Text} (absent : get? xs key = none) :
    get? ys key = none := by
  rw [get?_eq_none_iff] at absent ⊢
  rwa [← related.keys_eq]

end Related

end

end BlockWire.Keyed
