/- # What a configuration file gives

What holds no mapping is refused, unless it is vacant: null, false, zero or empty. A vacant value
counts as a mapping without entries, whatever its type (`refused_iff_not_vacant`), so some
documents with no mapping in them give the default configuration
(`vacantDocuments_accepted`). -/
import BlockWire.Proofs.Config.Mapping
import BlockWire.Yaml.Document
import Mathlib.Data.List.Basic

namespace BlockWire

set_option autoImplicit false

def Setting.isMapping : Setting → Bool
  | .mapping _ => true
  | _ => false

namespace Config

/-! ## Vacant values -/

/-- Null, and what counts as nothing among the values of the other types. -/
inductive Vacant : Setting → Prop where
  | null : Vacant .null
  | bool : Vacant (.bool false)
  | int : Vacant (.int 0)
  | float (negative : Bool) (power : Int) : Vacant (.float (.finite negative 0 power))
  | text : Vacant (.text [])
  | binary : Vacant (.binary [])
  | list : Vacant (.list [])
  | set : Vacant (.set [])
  | mapping : Vacant (.mapping [])

theorem isVacant_iff {value : Setting} : value.isVacant = true ↔ Vacant value := by
  constructor
  · intro vacant
    cases value with
    | null => exact .null
    | bool b =>
        cases b with
        | false => exact .bool
        | true => cases vacant
    | int n =>
        obtain rfl := beq_iff_eq.1 vacant
        exact .int
    | float x =>
        cases x with
        | finite negative m power =>
            obtain rfl := beq_iff_eq.1 vacant
            exact .float negative power
        | _ => cases vacant
    | text t =>
        obtain rfl := List.isEmpty_iff.1 vacant
        exact .text
    | binary octets =>
        obtain rfl := List.isEmpty_iff.1 vacant
        exact .binary
    | list items =>
        obtain rfl := List.isEmpty_iff.1 vacant
        exact .list
    | set items =>
        obtain rfl := List.isEmpty_iff.1 vacant
        exact .set
    | mapping entries =>
        obtain rfl := List.isEmpty_iff.1 vacant
        exact .mapping
    | _ => cases vacant
  · intro vacant
    cases vacant <;> rfl

/-! ## Files -/

/-- The configuration of a file that gives nothing. -/
def standard : Config := ⟨.mainnet, "INFO", by decide +kernel⟩

theorem ofFile_of_vacant {value : Setting} (vacant : Vacant value) :
    ofFile value = ⟨[], .ok standard⟩ := by
  have made : make (givenPreset []) (givenLevel []) = .ok standard := make_eq_ok.2 ⟨rfl, rfl⟩
  rw [ofFile, if_pos (isVacant_iff.2 vacant), ofSetting_of_readable (by simp), made]
  rfl

/-- A mapping is read as one, also where it is empty. -/
theorem ofFile_mapping (entries : List (Setting × Setting)) :
    ofFile (.mapping entries) = ofSetting (.mapping entries) := by
  cases entries <;> rfl

theorem ofFile_of_not_vacant {value : Setting} (plain : value.isMapping = false)
    (filled : ¬ Vacant value) : ofFile value = ⟨[], .error (.notMapping value.typeName)⟩ := by
  rw [← isVacant_iff] at filled
  rw [ofFile, if_neg filled]
  cases value with
  | mapping entries => cases plain
  | _ => rfl

/-- Whatever is wrong with a mapping, it is one. -/
theorem ofSetting_mapping_ne (entries : List (Setting × Setting)) (type : Text) :
    (ofSetting (.mapping entries)).outcome ≠ .error (.notMapping type) := by
  cases first : entries.find? fun entry => !isReadable entry with
  | none =>
      rw [ofSetting_of_readable (by simpa using first)]
      simp [make_eq_error]
  | some entry =>
      obtain ⟨unreadable, before, after, rfl, readable⟩ := List.find?_eq_some_iff_append.1 first
      rw [ofSetting_of_first (by simpa using readable) (by simpa using unreadable)]
      simp

/-- A file is refused for holding no mapping exactly if what it holds is neither a mapping nor
vacant; nothing is reported then. A vacant value of any type gives the default configuration. -/
theorem refused_iff_not_vacant (value : Setting) :
    ((∃ type, (ofFile value).outcome = .error (.notMapping type)) ↔
      value.isMapping = false ∧ ¬ Vacant value) ∧
    (value.isMapping = false → ¬ Vacant value →
      ∃ fault, ofFile value = ⟨[], .error fault⟩ ∧
        fault.message = "Expected a mapping, got " ++ value.typeName) ∧
    (Vacant value → ofFile value = ⟨[], .ok standard⟩) := by
  refine ⟨⟨?_, ?_⟩, ?_, ofFile_of_vacant⟩
  · rintro ⟨type, refused⟩
    constructor
    · cases value with
      | mapping entries =>
          rw [ofFile_mapping] at refused
          exact absurd refused (ofSetting_mapping_ne entries type)
      | _ => rfl
    · intro vacant
      rw [ofFile_of_vacant vacant] at refused
      cases refused
  · rintro ⟨plain, filled⟩
    exact ⟨_, by rw [ofFile_of_not_vacant plain filled]⟩
  · intro plain filled
    exact ⟨_, ofFile_of_not_vacant plain filled, rfl⟩

/-- A list of one word. -/
theorem refused_iff_not_vacant_listed :
    ∃ value, Yaml.load "- minimal\n" = .ok value ∧ value.isMapping = false ∧ ¬ Vacant value ∧
      ∃ fault, ofFile value = ⟨[], .error fault⟩ ∧
        fault.message = "Expected a mapping, got list" := by
  have read : ((fun value => (value.isMapping, value.isVacant, value.typeName)) <$>
      Yaml.load "- minimal\n") = .ok (false, false, "list") := by decide +kernel
  obtain ⟨value, loaded, same⟩ := map_eq_ok.1 read
  obtain ⟨plain, same⟩ := Prod.mk.inj same
  obtain ⟨filled, type⟩ := Prod.mk.inj same
  have notVacant : ¬ Vacant value := by
    rw [← isVacant_iff, filled]
    decide
  obtain ⟨fault, refused, message⟩ := (refused_iff_not_vacant value).2.1 plain notVacant
  refine ⟨value, loaded, plain, notVacant, fault, refused, ?_⟩
  rw [message, type]
  decide

/-- A document whose value, of this type, is no mapping and gives a configuration all the same. -/
def TakenAsEmpty (document type : Text) : Prop :=
  ∃ value, Yaml.load document = .ok value ∧ value.isMapping = false ∧ value.typeName = type ∧
    ofFile value = ⟨[], .ok standard⟩

theorem takenAsEmpty_of_load {document type : Text}
    (read : ((fun value => (value.isMapping, value.isVacant, value.typeName)) <$>
      Yaml.load document) = .ok (false, true, type)) : TakenAsEmpty document type := by
  obtain ⟨value, loaded, same⟩ := map_eq_ok.1 read
  obtain ⟨plain, same⟩ := Prod.mk.inj same
  obtain ⟨vacant, named⟩ := Prod.mk.inj same
  exact ⟨value, loaded, plain, named, ofFile_of_vacant (isVacant_iff.1 vacant)⟩

/-- Null and mappings apart, every type that has a vacant value has a document for it. -/
theorem vacantDocuments_accepted :
    TakenAsEmpty "[]" "list" ∧ TakenAsEmpty "false" "bool" ∧ TakenAsEmpty "0" "int" ∧
      TakenAsEmpty "0.0" "float" ∧ TakenAsEmpty "\"\"" "str" ∧
      TakenAsEmpty "!!binary \"\"" "bytes" ∧ TakenAsEmpty "!!set \x7b\x7d" "set" := by
  refine ⟨?_, ?_, ?_, ?_, ?_, ?_, ?_⟩ <;>
    · apply takenAsEmpty_of_load
      decide +kernel

end Config

end BlockWire
