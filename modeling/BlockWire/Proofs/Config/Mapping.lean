/- # What a mapping gives

A mapping is read entry by entry (`readEntry`). An entry under a known name is taken as text,
any other is reported, and a number too long to show stops the reading. So readable entries
leave the text of the last value under each name (`foldlM_of_readable`), the entries in front
of one that stops the reading are reported all the same (`foldlM_of_first`), and those that
are ignored could as well not be there (`foldlM_kept`). What is left names a preset and a level,
and both have to be known (`make_eq_ok`, `make_eq_error`). -/
import BlockWire.Proofs.Config.Session

namespace BlockWire

set_option autoImplicit false

/-! ## Presets and levels by name -/

namespace Preset

def IsName (t : Text) : Prop := t = "mainnet" ∨ t = "minimal"

instance (t : Text) : Decidable (IsName t) := inferInstanceAs (Decidable (_ ∨ _))

theorem isSome_ofName?_iff {t : Text} : (ofName? t).isSome = true ↔ IsName t := by
  rw [ofName?, List.find?_isSome]
  constructor
  · rintro ⟨preset, -, same⟩
    rw [beq_iff_eq] at same
    subst same
    cases preset with
    | mainnet => exact .inl rfl
    | minimal => exact .inr rfl
  · rintro (rfl | rfl)
    · exact ⟨.mainnet, by decide, by decide⟩
    · exact ⟨.minimal, by decide, by decide⟩

theorem isName_name (preset : Preset) : IsName preset.name := by
  cases preset <;> decide

theorem name_injective {p q : Preset} (same : p.name = q.name) : p = q := by
  revert same
  cases p <;> cases q <;> decide

end Preset

namespace Level

/-- A text that is the name of a level once it is in upper case. -/
def IsName (t : Text) : Prop := ∃ level, (Text.toUpper t, level) ∈ names

theorem isSome_ofName?_iff {t : Text} : (ofName? t).isSome = true ↔ IsName t := by
  rw [ofName?, ofUpper?, List.lookup_isSome_iff]
  constructor
  · rintro ⟨⟨name, level⟩, listed, same⟩
    rw [beq_iff_eq] at same
    exact ⟨level, same ▸ listed⟩
  · rintro ⟨level, listed⟩
    exact ⟨_, listed, beq_self_eq_true _⟩

end Level

namespace Config

/-- How a preset and a level make a configuration: the preset is looked at first. -/
theorem make_cases (preset level : Text) :
    (¬ Preset.IsName preset ∧ make preset level = .error (.unknownPreset preset)) ∨
      (Preset.IsName preset ∧ ¬ Level.IsName level ∧
        make preset level = .error (.unknownLevel level)) ∨
      (Preset.IsName preset ∧ Level.IsName level ∧
        ∃ c : Config, c.preset.name = preset ∧ c.logLevel = level ∧ make preset level = .ok c) := by
  rw [← Preset.isSome_ofName?_iff, ← Level.isSome_ofName?_iff, make]
  cases named : Preset.ofName? preset with
  | none => exact .inl ⟨by simp, rfl⟩
  | some found =>
      have same := Preset.name_of_ofName? named
      by_cases known : (Level.ofName? level).isSome = true
      · exact .inr (.inr ⟨rfl, known, ⟨found, level, known⟩, same, rfl, dif_pos known⟩)
      · exact .inr (.inl ⟨rfl, known, dif_neg known⟩)

/-- A configuration is given by its preset's name and its level. -/
theorem eq_of_names {c d : Config} (presets : c.preset.name = d.preset.name)
    (levels : c.logLevel = d.logLevel) : c = d := by
  obtain ⟨preset, level, known⟩ := c
  obtain ⟨preset', level', known'⟩ := d
  obtain rfl : preset = preset' := Preset.name_injective presets
  cases levels
  rfl

theorem make_eq_ok {preset level : Text} {c : Config} :
    make preset level = .ok c ↔ c.preset.name = preset ∧ c.logLevel = level := by
  constructor
  · intro made
    rcases make_cases preset level with ⟨-, failed⟩ | ⟨-, -, failed⟩ | ⟨-, -, d, p, l, made'⟩
    · rw [failed] at made
      cases made
    · rw [failed] at made
      cases made
    · obtain rfl := Except.ok.inj (made.symm.trans made')
      exact ⟨p, l⟩
  · rintro ⟨rfl, rfl⟩
    have known := Level.isSome_ofName?_iff.1 c.known
    rcases make_cases c.preset.name c.logLevel with
      ⟨unknown, -⟩ | ⟨-, unknown, -⟩ | ⟨-, -, d, p, l, made⟩
    · exact absurd (Preset.isName_name _) unknown
    · exact absurd known unknown
    · rw [made, eq_of_names p l]

theorem make_eq_error {preset level : Text} {fault : Fault} :
    make preset level = .error fault ↔
      ¬ Preset.IsName preset ∧ fault = .unknownPreset preset ∨
        Preset.IsName preset ∧ ¬ Level.IsName level ∧ fault = .unknownLevel level := by
  rcases make_cases preset level with ⟨un, failed⟩ | ⟨is, un, failed⟩ | ⟨is, known, c, -, -, made⟩
  · simp [un, failed, eq_comm]
  · simp [is, un, failed, eq_comm]
  · simp [is, known, made]

/-! ## Entries -/

/-- The name that an entry stands under. -/
def nameOf (entry : Setting × Setting) : Text := entry.1.toText.toLower

def isKnown (entry : Setting × Setting) : Bool := argumentNames.contains (nameOf entry)

/-- Whether all that is taken as text can be shown: the key, and the value under a known name. -/
def isReadable (entry : Setting × Setting) : Bool :=
  entry.1.isShowable && (!isKnown entry || entry.2.isShowable)

def isIgnored (entry : Setting × Setting) : Bool := entry.1.isShowable && !isKnown entry

/-- A warning for each entry that is ignored, in their order. -/
def warnings (entries : List (Setting × Setting)) : List Record :=
  (entries.filter isIgnored).map fun entry =>
    ⟨.warning, .config, "Ignoring unknown config key: " ++ entry.1.toText⟩

/-- The text of the last value under a name. -/
def lastUnder (name : Text) (entries : List (Setting × Setting)) : Option Text :=
  ((entries.filter fun entry => decide (nameOf entry = name)).getLast?).map (·.2.toText)

theorem warnings_cons (entry : Setting × Setting) (rest : List (Setting × Setting)) :
    warnings (entry :: rest) = warnings [entry] ++ warnings rest := by
  rw [warnings, warnings, warnings, ← List.map_append, ← List.filter_append,
    List.singleton_append]

theorem lastUnder_cons (name : Text) (entry : Setting × Setting)
    (rest : List (Setting × Setting)) :
    lastUnder name (entry :: rest) =
      (lastUnder name rest).or (if nameOf entry = name then some entry.2.toText else none) := by
  unfold lastUnder
  by_cases same : nameOf entry = name
  · simp only [same, decide_true, List.filter_cons_of_pos, List.getLast?_cons, if_true]
    cases (rest.filter fun entry => decide (nameOf entry = name)).getLast? <;> rfl
  · simp [same]

/-- What an entry does to what has been given so far. -/
def readEntry (draft : Draft) (entry : Setting × Setting) : Report Fault Draft := do
  let key ← .ofExcept (wordOf entry.1)
  if key.toLower = "preset" then
    let word ← .ofExcept (wordOf entry.2)
    pure { draft with preset := some word }
  else if key.toLower = "log_level" then
    let word ← .ofExcept (wordOf entry.2)
    pure { draft with logLevel := some word }
  else
    Report.record (ignored key)
    pure draft

theorem readEntries_eq (entries : List (Setting × Setting)) (draft : Draft) :
    readEntries entries draft = entries.foldlM readEntry draft := by
  induction entries generalizing draft with
  | nil => rfl
  | cons entry rest ih =>
      obtain ⟨key, value⟩ := entry
      rw [readEntries, List.foldlM_cons, readEntry, bind_assoc]
      congr 1
      funext key
      split
      · rw [bind_assoc]
        simp only [ih, pure_bind]
      split
      · rw [bind_assoc]
        simp only [ih, pure_bind]
      · rw [bind_assoc]
        simp only [ih, pure_bind]

/-! ### One entry -/

theorem isKnown_iff {entry : Setting × Setting} :
    isKnown entry = true ↔ nameOf entry = "preset" ∨ nameOf entry = "log_level" := by
  simp [isKnown, argumentNames]

/-- Past its key, an entry goes by its name. -/
theorem readEntry_of_key {draft : Draft} {entry : Setting × Setting}
    (shown : entry.1.isShowable = true) :
    readEntry draft entry =
      if nameOf entry = "preset" then
        (.ofExcept (wordOf entry.2) >>= fun word => pure { draft with preset := some word })
      else if nameOf entry = "log_level" then
        (.ofExcept (wordOf entry.2) >>= fun word => pure { draft with logLevel := some word })
      else ⟨[ignored entry.1.toText], .ok draft⟩ := by
  have key : wordOf entry.1 = .ok entry.1.toText := if_pos shown
  rw [readEntry, key]
  rfl

/-- What has been given once a readable entry is read. -/
def taken (draft : Draft) (entry : Setting × Setting) : Draft where
  preset := if nameOf entry = "preset" then some entry.2.toText else draft.preset
  logLevel := if nameOf entry = "log_level" then some entry.2.toText else draft.logLevel

theorem readEntry_of_readable {draft : Draft} {entry : Setting × Setting}
    (readable : isReadable entry = true) :
    readEntry draft entry = ⟨warnings [entry], .ok (taken draft entry)⟩ := by
  simp only [isReadable, Bool.and_eq_true, Bool.or_eq_true, Bool.not_eq_true'] at readable
  obtain ⟨shown, valueShown⟩ := readable
  rw [readEntry_of_key shown]
  have value (known : isKnown entry = true) :
      wordOf entry.2 = .ok entry.2.toText ∧ warnings [entry] = [] := by
    refine ⟨if_pos ?_, ?_⟩
    · simpa [known] using valueShown
    · simp [warnings, isIgnored, known]
  by_cases preset : nameOf entry = "preset"
  · obtain ⟨word, silent⟩ := value (isKnown_iff.2 (.inl preset))
    have other : nameOf entry ≠ "log_level" := by rw [preset]; decide
    rw [if_pos preset, word, silent, taken, if_pos preset, if_neg other]
    rfl
  · by_cases level : nameOf entry = "log_level"
    · obtain ⟨word, silent⟩ := value (isKnown_iff.2 (.inr level))
      rw [if_neg preset, if_pos level, word, silent, taken, if_neg preset, if_pos level]
      rfl
    · have unknown : isKnown entry = false :=
        Bool.eq_false_iff.2 fun known => (isKnown_iff.1 known).elim preset level
      have told : warnings [entry] = [ignored entry.1.toText] := by
        simp [warnings, isIgnored, shown, unknown, ignored]
      rw [if_neg preset, if_neg level, told, taken, if_neg preset, if_neg level]

theorem readEntry_of_unreadable {draft : Draft} {entry : Setting × Setting}
    (unreadable : isReadable entry = false) :
    readEntry draft entry = ⟨[], .error .numberTooLong⟩ := by
  by_cases shown : entry.1.isShowable = true
  · have both : isKnown entry = true ∧ entry.2.isShowable = false := by
      simpa [isReadable, shown] using unreadable
    have word : wordOf entry.2 = .error .numberTooLong := if_neg (by simp [both.2])
    rw [readEntry_of_key shown, word]
    by_cases preset : nameOf entry = "preset"
    · rw [if_pos preset]
      rfl
    · have level := (isKnown_iff.1 both.1).resolve_left preset
      rw [if_neg preset, if_pos level]
      rfl
  · have key : wordOf entry.1 = .error .numberTooLong := if_neg shown
    rw [readEntry, key]
    rfl

theorem readEntry_of_ignored {draft : Draft} {entry : Setting × Setting}
    (unasked : isIgnored entry = true) :
    readEntry draft entry = ⟨warnings [entry], .ok draft⟩ := by
  obtain ⟨shown, unknown⟩ : entry.1.isShowable = true ∧ isKnown entry = false := by
    simpa [isIgnored] using unasked
  have names : ¬ (nameOf entry = "preset" ∨ nameOf entry = "log_level") := by
    rw [← isKnown_iff, unknown]
    decide
  have same : taken draft entry = draft := by
    rw [not_or] at names
    rw [taken, if_neg names.1, if_neg names.2]
  rw [readEntry_of_readable (by simp [isReadable, shown, unknown]), same]

/-- Only an entry that is ignored is reported. -/
theorem log_readEntry (draft : Draft) {entry : Setting × Setting}
    (kept : isIgnored entry = false) : (readEntry draft entry).log = [] := by
  cases readable : isReadable entry with
  | true =>
      rw [readEntry_of_readable readable]
      simp [warnings, kept]
  | false => rw [readEntry_of_unreadable readable]

/-! ### All entries -/

variable {entries : List (Setting × Setting)} {draft : Draft}

theorem foldl_taken (entries : List (Setting × Setting)) (draft : Draft) :
    entries.foldl taken draft =
      ⟨(lastUnder "preset" entries).or draft.preset,
        (lastUnder "log_level" entries).or draft.logLevel⟩ := by
  induction entries generalizing draft with
  | nil => rfl
  | cons entry rest ih =>
      rw [List.foldl_cons, ih, lastUnder_cons, lastUnder_cons, Option.or_assoc, Option.or_assoc]
      -- what is given by an entry counts where none of the later ones gives it
      have taken_or (p : Prop) [Decidable p] (word : Text) (given : Option Text) :
          (if p then some word else given) = (if p then some word else none).or given := by
        split <;> rfl
      rw [taken, taken_or, taken_or (nameOf entry = "log_level")]

theorem foldlM_of_readable (readable : ∀ entry ∈ entries, isReadable entry = true) :
    entries.foldlM readEntry draft = ⟨warnings entries, .ok (entries.foldl taken draft)⟩ := by
  induction entries generalizing draft with
  | nil => rfl
  | cons entry rest ih =>
      obtain ⟨here, later⟩ := List.forall_mem_cons.1 readable
      rw [List.foldlM_cons, readEntry_of_readable here, Report.ok_bind, ih later,
        warnings_cons entry rest, List.foldl_cons]

theorem foldlM_of_first {before after : List (Setting × Setting)} {entry : Setting × Setting}
    (readable : ∀ e ∈ before, isReadable e = true) (unreadable : isReadable entry = false) :
    (before ++ entry :: after).foldlM readEntry draft =
      ⟨warnings before, .error .numberTooLong⟩ := by
  rw [List.foldlM_append, foldlM_of_readable readable, Report.ok_bind, List.foldlM_cons,
    readEntry_of_unreadable unreadable, Report.error_bind, List.append_nil]

/-- Without what is ignored the entries are read alike, and nothing is reported. -/
theorem foldlM_kept (entries : List (Setting × Setting)) (draft : Draft) :
    (entries.filter fun entry => !isIgnored entry).foldlM readEntry draft =
      ⟨[], (entries.foldlM readEntry draft).outcome⟩ := by
  induction entries generalizing draft with
  | nil => rfl
  | cons entry rest ih =>
      rw [List.foldlM_cons, Report.outcome_bind]
      cases unasked : isIgnored entry with
      | true =>
          rw [List.filter_cons_of_neg (by simp [unasked]), ih, readEntry_of_ignored unasked]
          rfl
      | false =>
          have silent := log_readEntry draft unasked
          rw [List.filter_cons_of_pos (by simp [unasked]), List.foldlM_cons]
          cases read : readEntry draft entry with
          | mk log outcome =>
              rw [read] at silent
              subst silent
              cases outcome with
              | error fault => rfl
              | ok next =>
                  rw [Report.ok_bind, ih]
                  rfl

/-! ## Mappings -/

/-- The preset that a mapping's entries name, or else the default one. -/
def givenPreset (entries : List (Setting × Setting)) : Text :=
  (lastUnder "preset" entries).getD "mainnet"

/-- The level that a mapping's entries name, or else the default one. -/
def givenLevel (entries : List (Setting × Setting)) : Text :=
  (lastUnder "log_level" entries).getD "INFO"

theorem ofSetting_mapping (entries : List (Setting × Setting)) :
    ofSetting (.mapping entries) =
      entries.foldlM readEntry .empty >>= fun draft => .ofExcept draft.make := by
  rw [ofSetting, readEntries_eq]

theorem ofSetting_of_readable (readable : ∀ entry ∈ entries, isReadable entry = true) :
    ofSetting (.mapping entries) =
      ⟨warnings entries, make (givenPreset entries) (givenLevel entries)⟩ := by
  rw [ofSetting_mapping, foldlM_of_readable readable, Report.ok_bind, foldl_taken]
  simp [Report.ofExcept, Draft.make, Draft.empty, givenPreset, givenLevel, defaultPreset,
    defaultLevel]

theorem ofSetting_of_first {before after : List (Setting × Setting)} {entry : Setting × Setting}
    (readable : ∀ e ∈ before, isReadable e = true) (unreadable : isReadable entry = false) :
    ofSetting (.mapping (before ++ entry :: after)) =
      ⟨warnings before, .error .numberTooLong⟩ := by
  rw [ofSetting_mapping, foldlM_of_first readable unreadable, Report.error_bind]

theorem ofSetting_kept (entries : List (Setting × Setting)) :
    ofSetting (.mapping (entries.filter fun entry => !isIgnored entry)) =
      ⟨[], (ofSetting (.mapping entries)).outcome⟩ := by
  rw [ofSetting_mapping, ofSetting_mapping, foldlM_kept, Report.outcome_bind]
  cases (entries.foldlM readEntry .empty).outcome with
  | error fault => rw [Report.error_bind]; rfl
  | ok draft => rw [Report.ok_bind]; rfl

/-- Of readable entries the last under each name decides, and all that are ignored are reported,
whatever becomes of the rest. Otherwise the first entry that is not readable stops the reading.
Leaving out what is ignored changes nothing but the reports. -/
theorem read_by_last_names (entries : List (Setting × Setting)) :
    ((∀ entry ∈ entries, isReadable entry = true) →
      (ofSetting (.mapping entries)).log = warnings entries ∧
      (∀ c : Config, (ofSetting (.mapping entries)).outcome = .ok c ↔
        c.preset.name = givenPreset entries ∧ c.logLevel = givenLevel entries) ∧
      ∀ fault, (ofSetting (.mapping entries)).outcome = .error fault ↔
        ¬ Preset.IsName (givenPreset entries) ∧ fault = .unknownPreset (givenPreset entries) ∨
          Preset.IsName (givenPreset entries) ∧ ¬ Level.IsName (givenLevel entries) ∧
            fault = .unknownLevel (givenLevel entries)) ∧
    (∀ before entry after, entries = before ++ entry :: after →
      (∀ e ∈ before, isReadable e = true) → isReadable entry = false →
      ofSetting (.mapping entries) = ⟨warnings before, .error .numberTooLong⟩) ∧
    ofSetting (.mapping (entries.filter fun entry => !isIgnored entry)) =
      ⟨[], (ofSetting (.mapping entries)).outcome⟩ := by
  refine ⟨?_, ?_, ofSetting_kept entries⟩
  · intro readable
    rw [ofSetting_of_readable readable]
    exact ⟨rfl, fun c => make_eq_ok, fun fault => make_eq_error⟩
  · rintro before entry after rfl readable unreadable
    exact ofSetting_of_first readable unreadable

/-- Two presets and a level among keys that are ignored. -/
def mixed : List (Setting × Setting) :=
  [(.text "fork", .text "electra"), (.text "PRESET", .text "devnet"), (.null, .bool true),
    (.text "Preset", .text "minimal"), (.text "LOG_LEVEL", .text "Debug")]

theorem read_by_last_names_mixed :
    (∀ entry ∈ mixed, isReadable entry = true) ∧
      (ofSetting (.mapping mixed)).log =
        [⟨.warning, .config, "Ignoring unknown config key: fork"⟩,
          ⟨.warning, .config, "Ignoring unknown config key: None"⟩] ∧
      ∃ c, (ofSetting (.mapping mixed)).outcome = .ok c ∧ c.preset = .minimal ∧
        c.logLevel = "Debug" := by
  have readable : ∀ entry ∈ mixed, isReadable entry = true := by decide +kernel
  obtain ⟨log, outcome, -⟩ := (read_by_last_names mixed).1 readable
  refine ⟨readable, ?_, ⟨.minimal, "Debug", by decide +kernel⟩, ?_, rfl, rfl⟩
  · rw [log]
    decide +kernel
  · rw [outcome]
    decide +kernel

/-- A number of 4,335 digits. -/
def longNumber : Int := .ofNat (Nat.pow 16 3600)

/-- A preset that is too long to show, in front of another. -/
def overwritten : List (Setting × Setting) :=
  [(.text "PRESET", .int longNumber), (.text "preset", .text "minimal")]

/-- The last preset and the default level are known and nothing is ignored, but the value that
is overwritten stops the reading. -/
theorem overwritten_not_read :
    givenPreset overwritten = "minimal" ∧ Preset.IsName (givenPreset overwritten) ∧
      givenLevel overwritten = "INFO" ∧ Level.IsName (givenLevel overwritten) ∧
      (∀ entry ∈ overwritten, isKnown entry = true) ∧
      ofSetting (.mapping overwritten) = ⟨[], .error .numberTooLong⟩ := by
  have preset : givenPreset overwritten = "minimal" := by decide +kernel
  have level : givenLevel overwritten = "INFO" := by decide +kernel
  rw [preset, level]
  refine ⟨rfl, .inr rfl, rfl, Level.isSome_ofName?_iff.1 (by decide +kernel), ?_, ?_⟩
  · decide +kernel
  · have unreadable : isReadable (.text "PRESET", .int longNumber) = false := by decide +kernel
    rw [overwritten, ← List.nil_append (_ :: _), ofSetting_of_first (by simp) unreadable]
    rfl

end Config

end BlockWire
