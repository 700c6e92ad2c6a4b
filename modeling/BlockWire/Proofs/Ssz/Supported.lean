/- # Supported types

A type is supported when every type in it has a JSON shape and the fields of every
container in it have distinct names that are text without surrogates. `levels` bounds
how deep its values nest. Both can be computed, so they are settled for a given type by
evaluation. -/
import BlockWire.Ssz.Value

namespace BlockWire.Ty

set_option autoImplicit false

def isPlainName (name : Text) : Bool := name.all fun c => !c.isSurrogate

mutual

def isSupported : Ty → Bool
  | .vector element _ => element.isSupported
  | .list element _ => element.isSupported
  | .container _ fields => decide (fields.map Prod.fst).Nodup && fieldsSupported fields
  | .shapeless _ => false
  | _ => true

def fieldsSupported : List (Text × Ty) → Bool
  | [] => true
  | (name, type) :: rest => isPlainName name && (type.isSupported && fieldsSupported rest)

end

mutual

/-- The arrays and objects that a value of the type can have inside one another. -/
def levels : Ty → Nat
  | .vector element _ => element.levels + 1
  | .list element _ => element.levels + 1
  | .container _ fields => fieldLevels fields + 1
  | _ => 0

def fieldLevels : List (Text × Ty) → Nat
  | [] => 0
  | (_, type) :: rest => max type.levels (fieldLevels rest)

end

theorem fieldsSupported_iff {fields : List (Text × Ty)} :
    fieldsSupported fields = true ↔
      ∀ field ∈ fields, isPlainName field.1 = true ∧ field.2.isSupported = true := by
  induction fields with
  | nil => simp [fieldsSupported]
  | cons field rest ih =>
      obtain ⟨name, type⟩ := field
      rw [fieldsSupported, Bool.and_eq_true, Bool.and_eq_true, List.forall_mem_cons, ih, and_assoc]

/-- What it takes for a container to be supported. -/
theorem isSupported_container {name : Text} {fields : List (Text × Ty)} :
    (Ty.container name fields).isSupported = true ↔
      (fields.map Prod.fst).Nodup ∧
        ∀ field ∈ fields, isPlainName field.1 = true ∧ field.2.isSupported = true := by
  rw [isSupported, Bool.and_eq_true, decide_eq_true_eq, fieldsSupported_iff]

theorem noSurrogate_of_isPlainName {name : Text} (plain : isPlainName name = true) :
    ∀ c ∈ name, c.isSurrogate = false := by
  intro c mem
  simpa using List.all_eq_true.1 plain c mem

theorem levels_le_fieldLevels {fields : List (Text × Ty)} {field : Text × Ty}
    (mem : field ∈ fields) : field.2.levels ≤ fieldLevels fields := by
  induction fields with
  | nil => simp at mem
  | cons first rest ih =>
      obtain ⟨name, type⟩ := first
      rw [fieldLevels]
      rcases List.mem_cons.1 mem with rfl | later
      · exact Nat.le_max_left _ _
      · exact Nat.le_trans (ih later) (Nat.le_max_right _ _)

end BlockWire.Ty
