/- # Why reading refuses a value

`Refuses kind outcome` says that whatever an outcome refuses is of a kind. It is kept by
each way in which readings are put together, so one induction over types serves every
kind that takes in the mismatches of values (`Wire.fromJson_refuses`). Two kinds are
wanted:

* At a supported type nothing is refused for its type: every refusal is a mismatch of the
  value (`Wire.fromJson_shaped`).
* A value that has been read as JSON is never refused as unreadable, whatever the type
  (`Wire.fromJson_legible`). -/
import BlockWire.Proofs.Outcome
import BlockWire.Proofs.Ssz.Supported
import BlockWire.Wire.Codec

namespace BlockWire

set_option autoImplicit false

/-- A type whose values are read whole: no part of them is read at a type of its own. -/
def Ty.isLeaf : Ty → Bool
  | .vector element _ => element.isByte
  | .list element _ => element.isByte
  | .container _ _ => false
  | .shapeless _ => false
  | _ => true

def Reason.isUnreadable : Reason → Bool
  | .unreadable _ => true
  | _ => false

/-- A kind that takes in what can be wrong with a value itself. -/
structure OfValue (kind : Refusal → Prop) : Prop where
  mismatch : ∀ (absent : Bool) (reason : Reason), reason.isUnreadable = false →
    kind (.mismatch ⟨absent, reason, []⟩)

/-- A kind that takes in the mismatches of values, wherever they are found. -/
structure OfValues (kind : Refusal → Prop) : Prop extends OfValue kind where
  within : ∀ r step, kind r → kind (r.within step)

section

variable {α β : Type} {kind : Refusal → Prop}

/-- An outcome that refuses for reasons of one kind. -/
def Refuses (kind : Refusal → Prop) (outcome : Except Refusal α) : Prop :=
  ∀ r, outcome = .error r → kind r

namespace Refuses

theorem ok (a : α) : Refuses kind (.ok a : Except Refusal α) := by
  intro r failed
  simp at failed

theorem error {r : Refusal} (holds : kind r) : Refuses kind (.error r : Except Refusal α) := by
  intro r' failed
  exact Except.error.inj failed ▸ holds

theorem invalid (value : OfValue kind) {reason : Reason}
    (legible : reason.isUnreadable = false) :
    Refuses kind (.error (.invalid reason) : Except Refusal α) :=
  error (value.mismatch false reason legible)

theorem bind {outcome : Except Refusal α} {next : α → Except Refusal β}
    (first : Refuses kind outcome) (later : ∀ a, Refuses kind (next a)) :
    Refuses kind (outcome >>= next) := by
  intro r failed
  rcases bind_eq_error.1 failed with here | ⟨a, -, there⟩
  · exact first r here
  · exact later a r there

theorem map {outcome : Except Refusal α} (refuses : Refuses kind outcome) (f : α → β) :
    Refuses kind (f <$> outcome) := by
  intro r failed
  exact refuses r (map_eq_error.1 failed)

theorem within (values : OfValues kind) {outcome : Except Refusal α}
    (refuses : Refuses kind outcome) (step : Step) :
    Refuses kind (outcome.mapError (.within step)) := by
  intro r failed
  obtain ⟨cause, here, rfl⟩ := mapError_eq_error.1 failed
  exact values.within cause step (refuses cause here)

theorem ite {cond : Prop} [Decidable cond] {yes no : Except Refusal α}
    (whenYes : Refuses kind yes) (whenNo : Refuses kind no) :
    Refuses kind (if cond then yes else no) := by
  split
  · exact whenYes
  · exact whenNo

end Refuses

/-! ## Two kinds -/

/-- A refusal that is not of the type itself. -/
def Refusal.OfShape (r : Refusal) : Prop := ∃ m, r = .mismatch m

/-- A refusal that is not for being no JSON. -/
def Refusal.Legible : Refusal → Prop
  | .mismatch m => m.reason.isUnreadable = false
  | .unsupported _ => True

theorem ofValues_ofShape : OfValues Refusal.OfShape where
  mismatch _ _ _ := ⟨_, rfl⟩
  within := by
    rintro _ step ⟨m, rfl⟩
    exact ⟨m.within step, rfl⟩

theorem ofValues_legible : OfValues Refusal.Legible where
  mismatch _ _ legible := legible
  within r _ legible := by
    cases r with
    | mismatch m => exact legible
    | unsupported type => exact trivial

/-- An outcome that is no refusal of the type itself. -/
abbrev Shaped (outcome : Except Refusal α) : Prop := Refuses Refusal.OfShape outcome

end

namespace Wire

section

variable {kind : Refusal → Prop} (value : OfValue kind)

include value

theorem present_refuses {α : Type} {read : Json → Except Refusal α} {j : Json}
    (refuses : Refuses kind (read j)) : Refuses kind (present read j) := by
  cases j with
  | null => exact .error (value.mismatch _ _ rfl)
  | _ => exact refuses

theorem uintFromJson_refuses (bits : Nat) (j : Json) : Refuses kind (uintFromJson bits j) := by
  unfold uintFromJson
  split
  · exact .ite (.ite (.invalid value rfl) (.ite (.invalid value rfl) (.ok _)))
      (.invalid value rfl)
  · exact .invalid value rfl

theorem fromHex_refuses (j : Json) : Refuses kind (fromHex j) := by
  unfold fromHex
  split
  · split
    · exact .invalid value rfl
    · refine .ite (.invalid value rfl) ?_
      split
      · exact .ok _
      · exact .invalid value rfl
  · exact .invalid value rfl

theorem exactBytes_refuses (length : Nat) (j : Json) : Refuses kind (exactBytes length j) :=
  (fromHex_refuses value j).bind fun _ => .ite (.invalid value rfl) (.ok _)

theorem bytesWithin_refuses (limit : Nat) (j : Json) : Refuses kind (bytesWithin limit j) :=
  (fromHex_refuses value j).bind fun _ => .ite (.invalid value rfl) (.ok _)

theorem bitvectorFromJson_refuses (length : Nat) (j : Json) :
    Refuses kind (bitvectorFromJson length j) :=
  (exactBytes_refuses value _ j).bind fun _ => .ite (.invalid value rfl) (.ok _)

theorem bitlistFromJson_refuses (limit : Nat) (j : Json) :
    Refuses kind (bitlistFromJson limit j) := by
  refine (fromHex_refuses value j).bind fun octets => ?_
  split
  · exact .invalid value rfl
  · exact .ite (.invalid value rfl) (.ok _)

theorem boolFromJson_refuses (j : Json) : Refuses kind (boolFromJson j) := by
  cases j with
  | bool b => exact .ok b
  | _ => exact .invalid value rfl

theorem arrayFromJson_refuses (j : Json) : Refuses kind (arrayFromJson j) := by
  cases j with
  | arr items => exact .ok items
  | _ => exact .invalid value rfl

theorem objectFromJson_refuses (j : Json) : Refuses kind (objectFromJson j) := by
  cases j with
  | obj members => exact .ok members
  | _ => exact .invalid value rfl

theorem declaredMembers_refuses (declared : List Text) (j : Json) :
    Refuses kind (declaredMembers declared j) := by
  refine (objectFromJson_refuses value j).bind fun members => ?_
  split
  · exact .invalid value rfl
  · exact .ok _

/-- At a leaf there is nothing inside that could be refused. -/
theorem fromJson_refuses_of_leaf {type : Ty} (leaf : type.isLeaf = true) (j : Json) :
    Refuses kind (fromJson type j) := by
  cases type with
  | uint bits => exact present_refuses value ((uintFromJson_refuses value bits j).map _)
  | boolean => exact present_refuses value ((boolFromJson_refuses value j).map _)
  | byteVector length => exact present_refuses value ((exactBytes_refuses value length j).map _)
  | byteList limit => exact present_refuses value ((bytesWithin_refuses value limit j).map _)
  | bitvector length =>
      exact present_refuses value ((bitvectorFromJson_refuses value length j).map _)
  | bitlist limit => exact present_refuses value ((bitlistFromJson_refuses value limit j).map _)
  | vector element length =>
      have bytes : element.isByte = true := leaf
      simp only [fromJson, if_pos bytes]
      exact present_refuses value ((exactBytes_refuses value length j).map _)
  | list element limit =>
      have bytes : element.isByte = true := leaf
      simp only [fromJson, if_pos bytes]
      exact present_refuses value ((bytesWithin_refuses value limit j).map _)
  | container => cases leaf
  | shapeless => cases leaf

end

section

variable {kind : Refusal → Prop} (values : OfValues kind)

include values

theorem entries_refuses {α : Type} {read : Json → Except Refusal α}
    (refuses : ∀ j, Refuses kind (read j)) (items : List Json) :
    Refuses kind (entries read items) := by
  have counted : ∀ i, Refuses kind (entriesFrom read i items) := by
    induction items with
    | nil => exact fun _ => .ok []
    | cons j rest ih =>
        intro i
        exact ((refuses j).within values _).bind fun _ => (ih (i + 1)).bind fun _ => .ok _
  exact counted 0

theorem exactEntries_refuses {α : Type} {read : Json → Except Refusal α}
    (refuses : ∀ j, Refuses kind (read j)) (length : Nat) (j : Json) :
    Refuses kind (exactEntries length read j) :=
  (arrayFromJson_refuses values.toOfValue j).bind fun items =>
    .ite (.invalid values.toOfValue rfl) (entries_refuses values refuses items)

theorem entriesWithin_refuses {α : Type} {read : Json → Except Refusal α}
    (refuses : ∀ j, Refuses kind (read j)) (limit : Nat) (j : Json) :
    Refuses kind (entriesWithin limit read j) :=
  (arrayFromJson_refuses values.toOfValue j).bind fun items =>
    .ite (.invalid values.toOfValue rfl) (entries_refuses values refuses items)

theorem fieldsFromJson_refuses {fields : List (Text × Ty)} {members : Keyed Json}
    (refuses : ∀ field ∈ fields, ∀ j, Refuses kind (fromJson field.2 j)) :
    Refuses kind (fieldsFromJson fields members) := by
  induction fields with
  | nil => exact .ok []
  | cons field rest ih =>
      obtain ⟨name, type⟩ := field
      obtain ⟨here, later⟩ := List.forall_mem_cons.1 refuses
      rw [fieldsFromJson]
      split
      · exact .error (values.within _ (.field name) (values.mismatch true .fieldMissing rfl))
      next j _ => exact ((here j).within values _).bind fun _ => (ih later).bind fun _ => .ok _

/-- Refusals are of any kind that takes in the mismatches of values, and refusals of
types unless the type is supported. -/
theorem fromJson_refuses {type : Ty}
    (supported : type.isSupported = true ∨ ∀ name, kind (.unsupported name)) (j : Json) :
    Refuses kind (fromJson type j) := by
  have value := values.toOfValue
  induction type using Ty.induction generalizing j with
  | uint bits => exact fromJson_refuses_of_leaf value rfl j
  | boolean => exact fromJson_refuses_of_leaf value rfl j
  | byteVector length => exact fromJson_refuses_of_leaf value rfl j
  | byteList limit => exact fromJson_refuses_of_leaf value rfl j
  | bitvector length => exact fromJson_refuses_of_leaf value rfl j
  | bitlist limit => exact fromJson_refuses_of_leaf value rfl j
  | vector element length ih =>
      exact present_refuses value (.ite ((exactBytes_refuses value length j).map _)
        ((exactEntries_refuses values (ih supported) length j).map _))
  | list element limit ih =>
      exact present_refuses value (.ite ((bytesWithin_refuses value limit j).map _)
        ((entriesWithin_refuses values (ih supported) limit j).map _))
  | container name fields ih =>
      have inside : ∀ field ∈ fields,
          field.2.isSupported = true ∨ ∀ name, kind (.unsupported name) := by
        intro field mem
        exact supported.imp_left fun whole => ((Ty.isSupported_container.1 whole).2 field mem).2
      have each (members : Keyed Json) : Refuses kind (fieldsFromJson fields members) :=
        fieldsFromJson_refuses values fun field mem => ih field mem (inside field mem)
      exact present_refuses value ((declaredMembers_refuses value _ j).bind fun members =>
        (each members).map _)
  | shapeless name =>
      refine present_refuses value (.error ?_)
      rcases supported with impossible | named
      · simp [Ty.isSupported] at impossible
      · exact named name

end

/-- At a supported type every refusal is a mismatch. -/
theorem fromJson_shaped {type : Ty} (supported : type.isSupported = true) (j : Json) :
    Shaped (fromJson type j) := fromJson_refuses ofValues_ofShape (.inl supported) j

/-- No value is refused as unreadable. -/
theorem fromJson_legible (type : Ty) (j : Json) : Refuses Refusal.Legible (fromJson type j) :=
  fromJson_refuses ofValues_legible (.inr fun _ => trivial) j

end Wire

namespace Codec

section

variable {kind : Refusal → Prop} {codec : Codec}

theorem fromJson_refuses (refuses : ∀ j, Refuses kind (Wire.fromJson codec.type j)) (j : Json) :
    Refuses kind (codec.fromJson j) := .ite (.ok none) ((refuses j).map _)

theorem listFromJson_refuses (values : OfValues kind)
    (refuses : ∀ j, Refuses kind (Wire.fromJson codec.type j)) (j : Json) :
    Refuses kind (codec.listFromJson j) := by
  unfold listFromJson
  split
  · exact .ok []
  · exact (Wire.arrayFromJson_refuses values.toOfValue j).bind fun items =>
      Wire.entries_refuses values (fromJson_refuses refuses) items

end

theorem loadValue_shaped (d : Document) : Shaped (loadValue d) := by
  intro r failed
  obtain ⟨fault, -, rfl⟩ := mapError_eq_error.1 failed
  exact ⟨_, rfl⟩

variable {codec : Codec}

theorem decode_shaped (supported : codec.type.isSupported = true) (d : Document) :
    Shaped (codec.decode d) :=
  (loadValue_shaped d).bind fun j => fromJson_refuses (Wire.fromJson_shaped supported) j

theorem decodeList_shaped (supported : codec.type.isSupported = true) (d : Document) :
    Shaped (codec.decodeList d) :=
  (loadValue_shaped d).bind fun j =>
    listFromJson_refuses ofValues_ofShape (Wire.fromJson_shaped supported) j

end Codec

end BlockWire
