/- # The active preset over a run

A session has one preset that is active, and two commands that can change it: one sets it,
the other applies a configuration, which sets up logging afterwards. A command that asks for
a preset either is given it or leaves the active one as it is (`granted?_step`). By induction
over the commands the active preset is the one that was given last (`preset_after`).

Applying a configuration cannot stop halfway: its level is one that is known by name, and
that is the name which the logger looks up (`setUpLogging_of_known`). So whatever fails, fails
before anything is changed (`applyConfig_eq`).

Sizes are read from the active preset, and so are the types that are loaded. `sizedPlaces`
lists where in a body the sizes stand. -/
import BlockWire.Config.Session
import BlockWire.Proofs.Outcome

namespace BlockWire

set_option autoImplicit false

/-! ## Presets and configurations by name -/

theorem Preset.name_of_ofName? {name : Text} {preset : Preset}
    (found : Preset.ofName? name = some preset) : preset.name = name := by
  have same := List.find?_some found
  exact beq_iff_eq.1 same

namespace Config

theorem presetWord_eq_ok {value : Setting} {word : Text} :
    presetWord value = .ok word ↔ value = .text word := by
  cases value <;> simp [presetWord]

theorem preset_of_make {preset level : Text} {c : Config} (made : make preset level = .ok c) :
    c.preset.name = preset := by
  unfold make at made
  split at made
  · simp at made
  next found =>
    split at made
    · obtain rfl := Except.ok.inj made
      exact Preset.name_of_ofName? found
    · simp at made

/-- The preset that arguments name. -/
def askedPreset (arguments : Keyed Setting) : Setting :=
  (arguments.get? "preset").getD (.text defaultPreset)

theorem preset_of_ofArguments {arguments : Keyed Setting} {c : Config}
    (made : ofArguments arguments = .ok c) : askedPreset arguments = .text c.preset.name := by
  unfold ofArguments at made
  split at made
  · simp at made
  · simp only at made
    split at made
    next word level isWord _ =>
      rw [preset_of_make made, ← presetWord_eq_ok]
      exact isWord
    next => split at made <;> simp at made
    next => simp at made

end Config

/-! ## Where the sizes stand -/

/-- What stands under a name in a container, or in the entries of a list of containers. -/
def Ty.under? (type : Ty) (name : Text) : Option Ty :=
  match type with
  | .list element _ => Keyed.get? element.fields name
  | type => Keyed.get? type.fields name

/-- What a path of names leads to. -/
def Ty.at? (type : Ty) (path : List Text) : Option Ty := path.foldlM under? type

/-- The entries, octets or bits that a type has room for. -/
def Ty.extent? : Ty → Option Nat
  | .byteVector length => some length
  | .byteList limit => some limit
  | .bitvector length => some length
  | .bitlist limit => some limit
  | .vector _ length => some length
  | .list _ limit => some limit
  | _ => none

/-- A place in a body with room for a product of sizes. -/
structure SizedPlace where
  path : List Text
  sizes : List PresetSize

def SizedPlace.extent (place : SizedPlace) (preset : Preset) : Nat :=
  place.sizes.foldl (fun product size => product * size.value preset) 1

/-- The places in a body that depend on the preset. -/
def sizedPlaces : List SizedPlace :=
  let members : List PresetSize := [.validatorsPerCommittee, .committeesPerSlot]
  [⟨["attester_slashings", "attestation_1", "attesting_indices"], members⟩,
    ⟨["attester_slashings", "attestation_2", "attesting_indices"], members⟩,
    ⟨["attestations", "aggregation_bits"], members⟩,
    ⟨["attestations", "committee_bits"], [.committeesPerSlot]⟩,
    ⟨["sync_aggregate", "sync_committee_bits"], [.syncCommittee]⟩,
    ⟨["execution_payload", "withdrawals"], [.withdrawals]⟩,
    ⟨["blob_kzg_commitments"], [.blobCommitments]⟩,
    ⟨["execution_requests", "deposits"], [.depositRequests]⟩,
    ⟨["execution_requests", "withdrawals"], [.withdrawalRequests]⟩]

/-- A body type with the sizes of a preset in their places. -/
def HasSizes (body : Ty) (preset : Preset) : Prop :=
  ∀ place ∈ sizedPlaces, (body.at? place.path).bind Ty.extent? = some (place.extent preset)

theorem hasSizes_type (preset : Preset) : HasSizes (Body.type preset) preset := by
  unfold HasSizes
  cases preset <;> decide +kernel

/-- No size is without a place. -/
theorem exists_sizedPlace (which : PresetSize) : ∃ place ∈ sizedPlaces, which ∈ place.sizes := by
  cases which <;> decide

namespace Session

variable {s : Session}

/-! ## One command -/

theorem setUpTaken_preset (s : Session) (fault : Fault) :
    (setUpTaken s fault).1.preset = s.preset := by
  unfold setUpTaken
  split <;> rfl

theorem setUpLogging_preset (s : Session) (level : Text) :
    (setUpLogging s level).1.preset = s.preset := by
  unfold setUpLogging
  simp only
  split
  · rfl
  · exact setUpTaken_preset s _
  · exact setUpTaken_preset s _
  · rfl

/-- A level that is known is set up without failure. -/
theorem setUpLogging_of_known (s : Session) {level : Text}
    (known : (Level.ofName? level).isSome = true) :
    ∃ logger, setUpLogging s level = (⟨s.preset, logger⟩, .ok (.logging logger)) := by
  obtain ⟨found, named⟩ := Option.isSome_iff_exists.1 known
  rw [Level.ofName?] at named
  refine ⟨s.logger.setUp found, ?_⟩
  simp only [setUpLogging, named]

/-- Every configuration there is can be applied. -/
theorem applyConfig_eq (s : Session) (c : Config) :
    ∃ logger, applyConfig s c =
      (⟨c.preset, logger⟩, .ok (.applied logger (inUse c.preset))) := by
  obtain ⟨logger, setUp⟩ := setUpLogging_of_known { s with preset := c.preset } c.known
  exact ⟨logger, by rw [applyConfig, setUp]⟩

/-- The preset that a command asks for. -/
def Command.asked? : Command → Option Setting
  | .setPreset preset => some preset
  | .apply arguments => some (Config.askedPreset arguments)
  | _ => none

/-- The preset that a command asked for and was given. -/
def granted? (command : Command) (next : Session × Except Fault Answer) : Option Setting :=
  if next.2.isOk then command.asked? else none

theorem step_setPreset (s : Session) (value : Setting) :
    (∃ preset : Preset, value = .text preset.name ∧
        step s (.setPreset value) = ({ s with preset := preset }, .ok .done)) ∨
      ∃ fault, step s (.setPreset value) = (s, .error fault) := by
  rw [step]
  split
  next word isWord =>
    obtain rfl := Config.presetWord_eq_ok.1 isWord
    unfold setPreset
    split
    next preset found => exact .inl ⟨preset, by rw [Preset.name_of_ofName? found], rfl⟩
    · exact .inr ⟨_, rfl⟩
  · exact .inr ⟨_, rfl⟩

theorem step_apply (s : Session) (arguments : Keyed Setting) :
    (∃ c logger, Config.ofArguments arguments = .ok c ∧
        Config.askedPreset arguments = .text c.preset.name ∧
        step s (.apply arguments) =
          (⟨c.preset, logger⟩, .ok (.applied logger (inUse c.preset)))) ∨
      ∃ cause, Config.ofArguments arguments = .error cause ∧
        step s (.apply arguments) = (s, .error (.config cause)) := by
  cases made : Config.ofArguments arguments with
  | ok c =>
      obtain ⟨logger, applied⟩ := applyConfig_eq s c
      refine .inl ⟨c, logger, rfl, Config.preset_of_ofArguments made, ?_⟩
      rw [step, made]
      exact applied
  | error cause =>
      refine .inr ⟨cause, rfl, ?_⟩
      rw [step, made]

/-- A command that asks for no preset leaves the one that is active. -/
theorem step_of_not_asked {command : Command} (silent : command.asked? = none) :
    (step s command).1.preset = s.preset := by
  cases command with
  | setPreset | apply => simp [Command.asked?] at silent
  | setUpLogging level =>
      rw [step]
      split
      · exact setUpLogging_preset s _
      · rfl
  | _ => rfl

/-- A command either is given a preset, which is then active, or leaves the active one. -/
theorem granted?_step (s : Session) (command : Command) :
    granted? command (step s command) = some (.text (step s command).1.preset.name) ∨
      granted? command (step s command) = none ∧ (step s command).1.preset = s.preset := by
  cases asked : command.asked? with
  | none =>
      refine .inr ⟨?_, step_of_not_asked asked⟩
      rw [granted?, asked, ite_self]
  | some value =>
      cases command with
      | setPreset preset =>
          rcases step_setPreset s preset with ⟨p, rfl, set⟩ | ⟨fault, failed⟩
          · rw [set]
            exact .inl rfl
          · rw [failed]
            exact .inr ⟨rfl, rfl⟩
      | apply arguments =>
          rcases step_apply s arguments with ⟨c, logger, -, named, applied⟩ | ⟨cause, -, failed⟩
          · rw [applied, ← named]
            exact .inl rfl
          · rw [failed]
            exact .inr ⟨rfl, rfl⟩
      | _ => simp [Command.asked?] at asked

/-! ## Whole runs -/

/-- The state that commands leave. -/
def after (s : Session) (commands : List Command) : Session :=
  commands.foldl (fun s command => (step s command).1) s

/-- The presets that the commands of a run were given, in their order. -/
def granted (s : Session) (commands : List Command) : List Setting :=
  (commands.zip (run s commands)).filterMap fun answered => granted? answered.1 answered.2

/-- What has been answered is not touched by what comes later. -/
theorem run_append (s : Session) (before later : List Command) :
    run s (before ++ later) = run s before ++ run (after s before) later := by
  induction before generalizing s with
  | nil => rfl
  | cons command rest ih =>
      rw [List.cons_append, run, ih]
      rfl

theorem preset_after (s : Session) (commands : List Command) :
    .text (after s commands).preset.name =
      (granted s commands).getLast?.getD (.text s.preset.name) := by
  induction commands generalizing s with
  | nil => rfl
  | cons command rest ih =>
      have onward : after s (command :: rest) = after (step s command).1 rest := rfl
      rw [onward, ih, granted, granted, run, List.zip_cons_cons, List.filterMap_cons]
      rcases granted?_step s command with given | ⟨silent, same⟩
      · simp only [given, List.getLast?_cons, Option.getD_some]
      · simp only [silent, same]

/-- What a command does with the active preset. -/
structure Keeps (s : Session) (command : Command) (next : Session × Except Fault Answer) :
    Prop where
  failed : ∀ fault, next.2 = .error fault → next.1.preset = s.preset
  unapplied : ∀ arguments fault, command = .apply arguments → next.2 = .error fault →
    next.1 = s ∧ ∃ cause, Config.ofArguments arguments = .error cause ∧ fault = .config cause
  applied : ∀ arguments c, command = .apply arguments → Config.ofArguments arguments = .ok c →
    ∃ logger, next = (⟨c.preset, logger⟩, .ok (.applied logger (inUse c.preset)))
  size : ∀ which, command = .size which → next = (s, .ok (.size (which.value s.preset)))
  types : command = .loadTypes →
    next = (s, .ok (.types (Body.type s.preset))) ∧ HasSizes (Body.type s.preset) s.preset

theorem preset_of_failed {command : Command} {fault : Fault}
    (failed : (step s command).2 = .error fault) : (step s command).1.preset = s.preset := by
  rcases granted?_step s command with given | ⟨-, same⟩
  · rw [granted?, failed] at given
    cases given
  · exact same

theorem step_keeps (s : Session) (command : Command) : Keeps s command (step s command) where
  failed fault := preset_of_failed
  unapplied := by
    rintro arguments fault rfl failed
    rcases step_apply s arguments with ⟨c, logger, -, -, applied⟩ | ⟨cause, unmade, stopped⟩
    · rw [applied] at failed
      cases failed
    · rw [stopped] at failed ⊢
      exact ⟨rfl, cause, unmade, (Except.error.inj failed).symm⟩
  applied := by
    rintro arguments c rfl made
    rcases step_apply s arguments with ⟨c', logger, made', -, applied⟩ | ⟨cause, unmade, -⟩
    · obtain rfl := Except.ok.inj (made.symm.trans made')
      exact ⟨logger, applied⟩
    · rw [made] at unmade
      cases unmade
  size := by
    rintro which rfl
    rfl
  types := by
    rintro rfl
    exact ⟨rfl, hasSizes_type s.preset⟩

/-- In a run from the beginning every command finds that preset active that was given last,
and mainnet if none was. What it does with it is what `Keeps` says, and what it answers
stays, whatever commands come later. There is no configuration that cannot be applied. -/
theorem active_preset_over_runs (before : List Command) (command : Command)
    (later : List Command) :
    ∃ s next, after initial before = s ∧ step s command = next ∧
      run initial (before ++ command :: later) =
        run initial before ++ next :: run next.1 later ∧
      (s.preset.name = "mainnet" ∨ s.preset.name = "minimal") ∧
      .text s.preset.name = (granted initial before).getLast?.getD (.text "mainnet") ∧
      Keeps s command next ∧
      (∀ c : Config, ∃ logger,
        applyConfig s c = (⟨c.preset, logger⟩, .ok (.applied logger (inUse c.preset)))) ∧
      ∀ which : PresetSize, ∃ place ∈ sizedPlaces, which ∈ place.sizes := by
  refine ⟨_, _, rfl, rfl, ?_, ?_, ?_, step_keeps _ command, applyConfig_eq _, exists_sizedPlace⟩
  · rw [run_append]
    rfl
  · cases (after initial before).preset
    · exact .inl rfl
    · exact .inr rfl
  · exact preset_after initial before

/-- A preset that is given, and two commands that fail one way and the other. -/
example : (run initial [.setPreset (.text "minimal"),
      .apply [("preset", .text "mainnet"), ("log_level", .text "loud")],
      .setPreset (.text "holesky"), .size .syncCommittee]).map
    (fun next => (next.1.preset, next.2.isOk)) =
    [(.minimal, true), (.minimal, false), (.minimal, false), (.minimal, true)] := by
  decide +kernel

end Session

end BlockWire
