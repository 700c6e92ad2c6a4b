/- # Where a reading fails

The path of a mismatch is put together from the inside out, one step at each array and
object around it. `Leads` follows such a path from the outside in, through the type and
the JSON value together, and asks at every step that reading gets that far: an array has a
length that its type admits and its earlier entries are read, an object has no undeclared
key and the fields declared earlier are there and are read. Nothing that stands later
counts.

`fromJson_fails_exactly_where` says that reading fails with a mismatch exactly if its path
leads to a value that fails for the same reason by itself, or to an object that lacks the
field the path ends with (`Located`). So the mismatch is the first one there is.

How the entries of an array and the fields of an object fail is said first
(`entriesFrom_eq_error`, `fieldsFromJson_eq_error`); then one case a kind of type. -/
import BlockWire.Proofs.Wire.Reading
import BlockWire.Proofs.Wire.Refusals

namespace BlockWire

set_option autoImplicit false

/-- A refusal that is made where the reading starts. -/
def Refusal.Flat : Refusal → Prop
  | .mismatch m => m.path = []
  | .unsupported _ => True

theorem ofValue_flat : OfValue Refusal.Flat where
  mismatch _ _ _ := rfl

namespace Wire

/-- The JSON values that a type takes. -/
def Reads (type : Ty) (j : Json) : Prop := ∃ v, fromJson type j = .ok v

/-- Reading gets through the fields in `before`, which stand first among `fields`. -/
structure Passes (fields before : List (Text × Ty)) (members : Keyed Json) : Prop where
  known : ∀ key ∈ Keyed.keys members, key ∈ fields.map Prod.fst
  earlier : ∀ field ∈ before, ∃ j, Keyed.get? members field.1 = some j ∧ Reads field.2 j

/-- A path from a JSON value of a type to one inside it, and to the type that this one is
read at. -/
inductive Leads : Ty → Json → List Step → Ty → Json → Prop where
  | here (type : Ty) (j : Json) : Leads type j [] type j
  | field {name key : Text} {before after : List (Text × Ty)} {members : Keyed Json}
      {type type' : Ty} {j j' : Json} {path : List Step}
      (passes : Passes (before ++ (key, type) :: after) before members)
      (found : Keyed.get? members key = some j) (onward : Leads type j path type' j') :
      Leads (.container name (before ++ (key, type) :: after)) (.obj members)
        (.field key :: path) type' j'
  | vector {element type' : Ty} {length : Nat} {before after : List Json} {j j' : Json}
      {path : List Step} (notBytes : element.isByte = false)
      (exact : (before ++ j :: after).length = length)
      (earlier : ∀ item ∈ before, Reads element item) (onward : Leads element j path type' j') :
      Leads (.vector element length) (.arr (before ++ j :: after))
        (.index before.length :: path) type' j'
  | list {element type' : Ty} {limit : Nat} {before after : List Json} {j j' : Json}
      {path : List Step} (notBytes : element.isByte = false)
      (within : (before ++ j :: after).length ≤ limit)
      (earlier : ∀ item ∈ before, Reads element item) (onward : Leads element j path type' j') :
      Leads (.list element limit) (.arr (before ++ j :: after))
        (.index before.length :: path) type' j'

/-- A mismatch whose path leads to what is wrong. -/
inductive Located (type : Ty) (j : Json) : Mismatch → Prop where
  | value {type' : Ty} {j' : Json} {absent : Bool} {reason : Reason} {path : List Step}
      (leads : Leads type j path type' j')
      (fails : fromJson type' j' = .error (.mismatch ⟨absent, reason, []⟩)) :
      Located type j ⟨absent, reason, path⟩
  | lacking {name key : Text} {before after : List (Text × Ty)} {type' : Ty}
      {members : Keyed Json} {path : List Step}
      (leads : Leads type j path (.container name (before ++ (key, type') :: after))
        (.obj members))
      (passes : Passes (before ++ (key, type') :: after) before members)
      (absent : Keyed.get? members key = none) :
      Located type j ⟨true, .fieldMissing, path ++ [.field key]⟩

/-! ## The first entry and the first field that fail -/

theorem entriesFrom_eq_error {α : Type} {read : Json → Except Refusal α} {i : Nat}
    {items : List Json} {r : Refusal} :
    entriesFrom read i items = .error r ↔
      ∃ before j after cause, items = before ++ j :: after ∧
        (∀ item ∈ before, ∃ v, read item = .ok v) ∧ read j = .error cause ∧
        r = cause.within (.index (i + before.length : Nat)) := by
  induction items generalizing i with
  | nil => simp [entriesFrom]
  | cons item rest ih =>
      rw [entriesFrom, bind_eq_error, mapError_eq_error]
      constructor
      · rintro (⟨cause, failed, rfl⟩ | ⟨v, here, later⟩)
        · exact ⟨[], item, rest, cause, rfl, by simp, failed, rfl⟩
        · rw [bind_eq_error] at later
          rcases later with later | ⟨_, -, impossible⟩
          · obtain ⟨before, j, after, cause, rfl, earlier, failed, rfl⟩ := ih.1 later
            refine ⟨item :: before, j, after, cause, rfl, ?_, failed, ?_⟩
            · exact List.forall_mem_cons.2 ⟨⟨v, mapError_eq_ok.1 here⟩, earlier⟩
            · rw [List.length_cons, Nat.add_assoc, Nat.add_comm 1]
          · simp at impossible
      · rintro ⟨before, j, after, cause, parted, earlier, failed, rfl⟩
        cases before with
        | nil =>
            obtain ⟨rfl, rfl⟩ := List.cons.inj parted
            exact .inl ⟨cause, failed, rfl⟩
        | cons first before =>
            obtain ⟨rfl, rfl⟩ := List.cons.inj parted
            obtain ⟨⟨v, here⟩, earlier⟩ := List.forall_mem_cons.1 earlier
            refine .inr ⟨v, mapError_eq_ok.2 here, bind_eq_error.2 (.inl (ih.2 ?_))⟩
            refine ⟨before, j, after, cause, rfl, earlier, failed, ?_⟩
            rw [List.length_cons, Nat.add_assoc, Nat.add_comm 1]

/-- Entries fail with the first of them that does, within its index. -/
theorem entries_eq_error {α : Type} {read : Json → Except Refusal α} {items : List Json}
    {r : Refusal} :
    entries read items = .error r ↔
      ∃ before j after cause, items = before ++ j :: after ∧
        (∀ item ∈ before, ∃ v, read item = .ok v) ∧ read j = .error cause ∧
        r = cause.within (.index before.length) := by
  rw [entries, entriesFrom_eq_error]
  simp only [Nat.zero_add]

/-- Fields fail with the first of them that is not there or fails, within its name. -/
theorem fieldsFromJson_eq_error {fields : List (Text × Ty)} {members : Keyed Json}
    {r : Refusal} :
    fieldsFromJson fields members = .error r ↔
      ∃ before key type after, fields = before ++ (key, type) :: after ∧
        (∀ field ∈ before, ∃ j, Keyed.get? members field.1 = some j ∧ Reads field.2 j) ∧
        (Keyed.get? members key = none ∧
            r = .mismatch (.missing .fieldMissing [.field key]) ∨
          ∃ j cause, Keyed.get? members key = some j ∧ fromJson type j = .error cause ∧
            r = cause.within (.field key)) := by
  induction fields with
  | nil => simp [fieldsFromJson]
  | cons field rest ih =>
      obtain ⟨name, type⟩ := field
      rw [fieldsFromJson]
      constructor
      · intro failed
        split at failed
        next absent =>
          obtain rfl := Except.error.inj failed
          exact ⟨[], name, type, rest, rfl, by simp, .inl ⟨absent, rfl⟩⟩
        next j found =>
          rw [bind_eq_error, mapError_eq_error] at failed
          rcases failed with ⟨cause, here, rfl⟩ | ⟨v, here, later⟩
          · exact ⟨[], name, type, rest, rfl, by simp, .inr ⟨j, cause, found, here, rfl⟩⟩
          · rw [bind_eq_error] at later
            rcases later with later | ⟨_, -, impossible⟩
            · obtain ⟨before, key, type', after, rfl, earlier, failed⟩ := ih.1 later
              refine ⟨(name, type) :: before, key, type', after, rfl, ?_, failed⟩
              exact List.forall_mem_cons.2 ⟨⟨j, found, v, mapError_eq_ok.1 here⟩, earlier⟩
            · simp at impossible
      · rintro ⟨before, key, type', after, parted, earlier, failed⟩
        cases before with
        | nil =>
            obtain ⟨same, rfl⟩ := List.cons.inj parted
            obtain ⟨rfl, rfl⟩ := Prod.mk.inj same
            rcases failed with ⟨absent, rfl⟩ | ⟨j, cause, found, here, rfl⟩
            · rw [absent]
            · rw [found]
              exact bind_eq_error.2 (.inl (mapError_eq_error.2 ⟨cause, here, rfl⟩))
        | cons first before =>
            obtain ⟨rfl, rfl⟩ := List.cons.inj parted
            obtain ⟨⟨j, found, v, here⟩, earlier⟩ := List.forall_mem_cons.1 earlier
            rw [found]
            refine bind_eq_error.2 (.inr ⟨v, mapError_eq_ok.2 here, bind_eq_error.2 (.inl ?_)⟩)
            exact ih.2 ⟨before, key, type', after, rfl, earlier, failed⟩

/-! ## Arrays and objects that are opened -/

theorem fromJson_vector_arr {element : Ty} {length : Nat} {items : List Json}
    (notBytes : element.isByte = false) (exact : items.length = length) :
    fromJson (.vector element length) (.arr items) =
      .seq <$> entries (fromJson element) items := by
  simp only [fromJson, present, notBytes, Bool.false_eq_true, if_false, exactEntries,
    arrayFromJson, bind, Except.bind, ne_eq, exact, not_true_eq_false]

theorem fromJson_list_arr {element : Ty} {limit : Nat} {items : List Json}
    (notBytes : element.isByte = false) (within : items.length ≤ limit) :
    fromJson (.list element limit) (.arr items) = .seq <$> entries (fromJson element) items := by
  simp only [fromJson, present, notBytes, Bool.false_eq_true, if_false, entriesWithin,
    arrayFromJson, bind, Except.bind, Nat.not_lt.2 within]

theorem fromJson_container_obj {name : Text} {fields : List (Text × Ty)} {members : Keyed Json}
    (known : ∀ key ∈ Keyed.keys members, key ∈ fields.map Prod.fst) :
    fromJson (.container name fields) (.obj members) =
      .record <$> fieldsFromJson fields members := by
  have declared := declaredMembers_eq_ok.2 ⟨rfl, known⟩
  simp only [fromJson, present, declared, bind, Except.bind]

/-! ## Following a path that leads to a failure -/

/-- What fails inside fails outside, with the path that leads there in front. -/
theorem Leads.fails {type type' : Ty} {j j' : Json} {path : List Step}
    (leads : Leads type j path type' j') {m : Mismatch}
    (failed : fromJson type' j' = .error (.mismatch m)) :
    fromJson type j = .error (.mismatch { m with path := path ++ m.path }) := by
  induction leads with
  | here => exact failed
  | field passes found _ ih =>
      rw [fromJson_container_obj passes.known, map_eq_error, fieldsFromJson_eq_error]
      exact ⟨_, _, _, _, rfl, passes.earlier, .inr ⟨_, _, found, ih failed, rfl⟩⟩
  | vector notBytes exact earlier _ ih =>
      rw [fromJson_vector_arr notBytes exact, map_eq_error, entries_eq_error]
      exact ⟨_, _, _, _, rfl, earlier, ih failed, rfl⟩
  | list notBytes within earlier _ ih =>
      rw [fromJson_list_arr notBytes within, map_eq_error, entries_eq_error]
      exact ⟨_, _, _, _, rfl, earlier, ih failed, rfl⟩

theorem Located.fails {type : Ty} {j : Json} {m : Mismatch} (located : Located type j m) :
    fromJson type j = .error (.mismatch m) := by
  cases located with
  | value leads failed => simpa only [List.append_nil] using leads.fails failed
  | lacking leads passes absent =>
      apply leads.fails (m := .missing .fieldMissing [.field _])
      rw [fromJson_container_obj passes.known, map_eq_error, fieldsFromJson_eq_error]
      exact ⟨_, _, _, _, rfl, passes.earlier, .inl ⟨absent, rfl⟩⟩

/-! ## Finding the path of a failure -/

theorem Located.of_flat {type : Ty} {j : Json} {m : Mismatch}
    (failed : fromJson type j = .error (.mismatch m)) (flat : m.path = []) :
    Located type j m := by
  obtain ⟨absent, reason, path⟩ := m
  obtain rfl : path = [] := flat
  exact .value (.here type j) failed

theorem Located.of_leaf {type : Ty} (leaf : type.isLeaf = true) {j : Json} {m : Mismatch}
    (failed : fromJson type j = .error (.mismatch m)) : Located type j m :=
  .of_flat failed (fromJson_refuses_of_leaf ofValue_flat leaf j _ failed)

/-- A step that can be put in front of every path can be put in front of a mismatch. -/
theorem Located.within {type inner : Ty} {j k : Json} {step : Step}
    (extend : ∀ {path : List Step} {type' : Ty} {j' : Json},
      Leads inner k path type' j' → Leads type j (step :: path) type' j')
    {m : Mismatch} (located : Located inner k m) : Located type j (m.within step) := by
  cases located with
  | value leads failed => exact .value (extend leads) failed
  | lacking leads passes absent => exact .lacking (extend leads) passes absent

theorem present_eq_error {α : Type} {read : Json → Except Refusal α} {j : Json} {r : Refusal} :
    present read j = .error r ↔
      j = .null ∧ r = .mismatch (.missing .valueMissing []) ∨ j ≠ .null ∧ read j = .error r := by
  cases j <;> simp [present, eq_comm]

/-- Types of sequences differ in the lengths they refuse and in how they say so. -/
theorem located_of_sequence {type element : Ty} (bad : Nat → Prop) [DecidablePred bad]
    (why : Nat → Reason)
    (shape : ∀ j, fromJson type j = present (fun j => .seq <$> (arrayFromJson j >>= fun items =>
      if bad items.length then .error (.invalid (why items.length))
      else entries (fromJson element) items)) j)
    (extend : ∀ {before after : List Json} {j j' : Json} {path : List Step} {type' : Ty},
      ¬ bad (before ++ j :: after).length → (∀ item ∈ before, Reads element item) →
      Leads element j path type' j' →
      Leads type (.arr (before ++ j :: after)) (.index before.length :: path) type' j')
    (inside : ∀ {j : Json} {m : Mismatch}, fromJson element j = .error (.mismatch m) →
      Located element j m)
    {j : Json} {m : Mismatch} (failed : fromJson type j = .error (.mismatch m)) :
    Located type j m := by
  have opened := failed
  rw [shape, present_eq_error, map_eq_error, bind_eq_error] at opened
  rcases opened with ⟨-, missing⟩ | ⟨-, closed | ⟨items, array, read⟩⟩
  · cases missing
    exact .of_flat failed rfl
  · exact .of_flat failed (arrayFromJson_refuses ofValue_flat j _ closed)
  · obtain rfl := arrayFromJson_eq_ok.1 array
    split at read
    · cases read
      exact .of_flat failed rfl
    next admitted =>
      obtain ⟨before, j, after, cause, rfl, earlier, here, same⟩ := entries_eq_error.1 read
      cases cause with
      | unsupported => cases same
      | mismatch inner =>
          cases same
          exact (inside here).within (extend admitted earlier)

theorem located_of_fields {name : Text} {fields : List (Text × Ty)} {members : Keyed Json}
    (known : ∀ key ∈ Keyed.keys members, key ∈ fields.map Prod.fst)
    (inside : ∀ field ∈ fields, ∀ {j : Json} {m : Mismatch},
      fromJson field.2 j = .error (.mismatch m) → Located field.2 j m)
    {m : Mismatch} (failed : fieldsFromJson fields members = .error (.mismatch m)) :
    Located (.container name fields) (.obj members) m := by
  obtain ⟨before, key, type, after, rfl, earlier, stopped⟩ := fieldsFromJson_eq_error.1 failed
  have passes : Passes (before ++ (key, type) :: after) before members := ⟨known, earlier⟩
  rcases stopped with ⟨absent, same⟩ | ⟨j, cause, found, here, same⟩
  · cases same
    have start := Leads.here (.container name (before ++ (key, type) :: after)) (.obj members)
    exact .lacking start passes absent
  · cases cause with
    | unsupported => cases same
    | mismatch inner =>
        cases same
        exact (inside (key, type) (by simp) here).within fun leads => .field passes found leads

/-! ## Every type -/

theorem located_of_fails {type : Ty} {j : Json} {m : Mismatch}
    (failed : fromJson type j = .error (.mismatch m)) : Located type j m := by
  induction type using Ty.induction generalizing j m with
  | uint bits => exact .of_leaf rfl failed
  | boolean => exact .of_leaf rfl failed
  | byteVector length => exact .of_leaf rfl failed
  | byteList limit => exact .of_leaf rfl failed
  | bitvector length => exact .of_leaf rfl failed
  | bitlist limit => exact .of_leaf rfl failed
  | vector element length ih =>
      by_cases bytes : element.isByte = true
      · have leaf : (Ty.vector element length).isLeaf = true := bytes
        exact .of_leaf leaf failed
      · refine located_of_sequence (· ≠ length) (.elementCount length) (fun j => ?_) ?_ ih failed
        · simp only [fromJson, if_neg bytes]
          rfl
        · intro _ _ _ _ _ _ admitted earlier leads
          exact .vector (Bool.not_eq_true _ ▸ bytes) (Decidable.not_not.1 admitted) earlier leads
  | list element limit ih =>
      by_cases bytes : element.isByte = true
      · have leaf : (Ty.list element limit).isLeaf = true := bytes
        exact .of_leaf leaf failed
      · refine located_of_sequence (limit < ·) (fun n => .tooManyElements n limit) (fun j => ?_)
          ?_ ih failed
        · simp only [fromJson, if_neg bytes]
          rfl
        · intro _ _ _ _ _ _ admitted earlier leads
          exact .list (Bool.not_eq_true _ ▸ bytes) (Nat.not_lt.1 admitted) earlier leads
  | container name fields ih =>
      have opened := failed
      rw [fromJson, present_eq_error, bind_eq_error] at opened
      rcases opened with ⟨-, missing⟩ | ⟨-, undeclared | ⟨members, declared, read⟩⟩
      · cases missing
        exact .of_flat failed rfl
      · exact .of_flat failed (declaredMembers_refuses ofValue_flat _ j _ undeclared)
      · obtain ⟨rfl, known⟩ := declaredMembers_eq_ok.1 declared
        exact located_of_fields known (fun field mem _ _ => ih field mem) (map_eq_error.1 read)
  | shapeless name =>
      have flat : Refuses Refusal.Flat (fromJson (.shapeless name) j) :=
        present_refuses ofValue_flat (.error trivial)
      exact .of_flat failed (flat _ failed)

/-- Reading fails with a mismatch exactly if the path of the mismatch leads to what is
wrong, past nothing that fails earlier. -/
theorem fromJson_fails_exactly_where (type : Ty) (j : Json) (m : Mismatch) :
    fromJson type j = .error (.mismatch m) ↔ Located type j m := by
  constructor
  · intro failed
    exact located_of_fails failed
  · intro located
    exact located.fails

end Wire

end BlockWire
