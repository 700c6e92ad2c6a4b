/- # What splitting into declared fields comes to

A document stops being split at the first value with a surrogate, if it is text up to there.
Any other is malformed just where it is not one object, or one that nests deeper than the
scanner follows (`splitText_isOk_iff`); which keys are declared does not count there. Once it
is split, the earliest field whose key is not declared is put down, whatever stands under that
key or any other later on, since collecting the fields keeps the order of their first
occurrences. If there is none, each key has the octets of its last value
(`splitDeclared_outcome`). A field that is put in front of another with its key changes no
value. -/
import BlockWire.Proofs.Json.Levels
import BlockWire.Proofs.RawFields.Places

namespace BlockWire.RawFields

set_option autoImplicit false

open Json (NestsWithin Readable brackets skipBlanks scanValue depthLimit)

/-! ## Objects -/

/-- One object with blanks around it, however deep it nests. -/
def IsObject (t : Text) : Prop :=
  ∃ depth members left, scanValue depth (skipBlanks t) = .ok (.obj members, left) ∧
    skipBlanks left = []

theorem IsObject.objectText {t : Text} (object : IsObject t)
    (nests : NestsWithin (depthLimit + 1) t) : ∃ fields, ObjectText t fields := by
  obtain ⟨depth, members, left, value, nothing⟩ := object
  have deeper := Json.scanValue_mono (Nat.le_max_left depth (depthLimit + 1)) value
  rw [Json.scanValue_eq_of_le (Nat.le_max_right _ _) nests] at deeper
  exact objectText_of_scanned deeper nothing

/-- A text splits if and only if it is one object whose values nest no deeper than the scanner
follows and hold no surrogate. -/
theorem splitText_isOk_iff {t : Text} :
    (∃ raws, splitText t = .ok raws) ↔
      (IsObject t ∧ NestsWithin (depthLimit + 1) t) ∧ ¬ ∃ fault, MeetsSurrogate t fault := by
  constructor
  · rintro ⟨raws, parted⟩
    obtain ⟨members, left, value, nothing, -⟩ := scanned_of_splitText parted
    refine ⟨⟨⟨_, members, left, value, nothing⟩, ?_⟩, ?_⟩
    · intro failed
      rw [value] at failed
      cases failed
    · rintro ⟨fault, meets⟩
      rw [splitText_eq_unencodable.2 meets] at parted
      cases parted
  · rintro ⟨⟨object, nests⟩, never⟩
    obtain ⟨fields, shaped⟩ := object.objectText nests
    exact ⟨_, splitText_eq_ok_iff.2 ⟨fields, shaped, shaped.plain_of_not_meets never, rfl⟩⟩

theorem split_eq_unencodable {d : Document} {fault : Encoding.Unencodable} :
    split d = .error (.unencodable fault) ↔ ∃ t, text d = .ok t ∧ MeetsSurrogate t fault := by
  rw [split, bind_eq_error]
  constructor
  · rintro (failed | ⟨t, isText, failed⟩)
    · obtain ⟨_, _, same⟩ := mapError_eq_error.1 failed
      cases same
    · obtain ⟨cause, unsplit, same⟩ := mapError_eq_error.1 failed
      cases cause with
      | malformed why => cases same
      | unencodable found =>
          obtain rfl := Unsplit.unencodable.inj same
          exact ⟨t, mapError_eq_ok.1 isText, splitText_eq_unencodable.1 unsplit⟩
  · rintro ⟨t, isText, meets⟩
    have failed := splitText_eq_unencodable.2 meets
    exact .inr ⟨t, mapError_eq_ok.2 isText, mapError_eq_error.2 ⟨_, failed, rfl⟩⟩

/-- Only a document that comes as text can have a value without octets. -/
theorem split_ne_unencodable {d : Document} (plain : d.IsPlain) (fault : Encoding.Unencodable) :
    split d ≠ .error (.unencodable fault) := by
  intro failed
  obtain ⟨t, isText, meets⟩ := split_eq_unencodable.1 failed
  exact not_meetsSurrogate_of_plain (plain_of_text plain isText) fault meets

theorem exists_malformed_iff {declared : List Text} {d : Document} :
    (∃ why, splitDeclared declared d = .error (.unsplit (.malformed why))) ↔
      ¬ ∃ t, text d = .ok t ∧
        ((∃ fault, MeetsSurrogate t fault) ∨ IsObject t ∧ NestsWithin (depthLimit + 1) t) := by
  simp only [splitDeclared_eq_unsplit]
  constructor
  · rintro ⟨why, failed⟩ ⟨t, isText, met⟩
    -- Either way splitting the text comes to something else.
    by_cases meets : ∃ fault, MeetsSurrogate t fault
    · obtain ⟨fault, meets⟩ := meets
      rw [split_eq_unencodable.2 ⟨t, isText, meets⟩] at failed
      cases failed
    · obtain ⟨raws, parts⟩ := splitText_isOk_iff.2 ⟨met.resolve_left meets, meets⟩
      rw [split_eq_ok.2 ⟨t, isText, parts⟩] at failed
      cases failed
  · intro never
    cases parted : split d with
    | error why =>
        cases why with
        | malformed why => exact ⟨why, rfl⟩
        | unencodable fault =>
            obtain ⟨t, isText, meets⟩ := split_eq_unencodable.1 parted
            exact absurd ⟨t, isText, .inl ⟨fault, meets⟩⟩ never
    | ok raws =>
        obtain ⟨t, isText, parts⟩ := split_eq_ok.1 parted
        exact absurd ⟨t, isText, .inr (splitText_isOk_iff.1 ⟨raws, parts⟩).1⟩ never

section

variable {n : Nat} {members : Keyed Json} (readable : Readable n (.obj members))

include readable

theorem skipBlanks_print :
    skipBlanks (Json.print (.obj members)) = Json.print (.obj members) := by
  have solid := ((Json.scanValue_local n).token readable.takes).solid []
  rw [List.append_nil] at solid
  exact Json.skipBlanks_of_stops solid

/-- An object with more levels than the scanner follows is malformed, whatever is declared. -/
theorem splitDeclared_of_deep (declared : List Text)
    (deep : depthLimit + 1 < (Json.obj members).levels) :
    ∃ why, splitDeclared declared (.octets (Json.obj members).encode) =
      .error (.unsplit (.malformed why)) := by
  have isText : text (.octets (Json.obj members).encode) = .ok (Json.print (.obj members)) :=
    text_encode (Json.graphic_print _).plain
  refine exists_malformed_iff.2 ?_
  rintro ⟨t, isText', ⟨fault, meets⟩ | ⟨-, nests⟩⟩
  all_goals obtain rfl := Except.ok.inj (isText.symm.trans isText')
  · exact not_meetsSurrogate_of_plain (Json.graphic_print _).plain fault meets
  rw [NestsWithin, skipBlanks_print readable] at nests
  exact nests (readable.tooDeep deep)

end

/-- An object whose one key is declared. -/
theorem splitDeclared_of_brackets {n : Nat} (deep : depthLimit ≤ n) :
    scanValue (n + 2) (skipBlanks (Json.print (.obj [("a", brackets n)]))) =
        .ok (.obj [("a", brackets n)], []) ∧
      ∃ why, splitDeclared ["a"] (.octets (Json.obj [("a", brackets n)]).encode) =
        .error (.unsplit (.malformed why)) := by
  have unpaired : Json.Unpaired "a" := Json.unpaired_of_plain (by decide)
  have readable : Readable (n + 2) (.obj [("a", brackets n)]) :=
    .single unpaired (Json.readable_brackets n)
  refine ⟨?_, splitDeclared_of_deep readable ["a"] ?_⟩
  · rw [skipBlanks_print readable]
    exact readable.takes.whole
  · simp only [Json.levels, Json.memberLevels, Json.levels_brackets]
    omega

theorem splitDeclared_brackets :
    scanValue 5001 (skipBlanks (Json.print (.obj [("a", brackets 4999)]))) =
        .ok (.obj [("a", brackets 4999)], []) ∧
      ∃ why, splitDeclared ["a"] (.octets (Json.obj [("a", brackets 4999)]).encode) =
        .error (.unsplit (.malformed why)) :=
  splitDeclared_of_brackets (by decide)

/-! ## Which key is put down, and which value is kept -/

/-- The key of the earliest field whose key is not declared. -/
def EarliestUndeclared (declared : List Text) (fields : List (Text × Text)) (key : Text) : Prop :=
  ∃ before slice after, fields = before ++ (key, slice) :: after ∧ key ∉ declared ∧
    ∀ field ∈ before, field.1 ∈ declared

/-- Each key at the place of its first field, with the octets of its last. -/
structure HoldsLast (fields : List (Text × Text)) (raws : Keyed Octets) : Prop where
  keys : Keyed.keys raws = (Keyed.keys fields).eraseDups
  last : ∀ before key slice after, fields = before ++ (key, slice) :: after →
    key ∉ Keyed.keys after → Keyed.get? raws key = some (Utf8.encode slice)
  absent : ∀ name, name ∉ Keyed.keys fields → Keyed.get? raws name = none

/-- What the fields of an object come to. -/
def collected (fields : List (Text × Text)) : Keyed Octets :=
  Keyed.ofPairs (fields.map encodeField)

theorem keys_collected (fields : List (Text × Text)) :
    Keyed.keys (collected fields) = (Keyed.keys fields).eraseDups := by
  rw [collected, Keyed.keys_ofPairs, keys_encodeField]

theorem collected_holdsLast (fields : List (Text × Text)) :
    HoldsLast fields (collected fields) := by
  refine ⟨keys_collected fields, ?_, ?_⟩
  · rintro before key slice after rfl last
    have last' : key ∉ Keyed.keys (after.map encodeField) := by rwa [keys_encodeField]
    rw [collected, List.map_append, List.map_cons]
    exact Keyed.get?_ofPairs_of_last last'
  · intro name other
    rw [Keyed.get?_eq_none_iff, keys_collected]
    simpa using other

theorem firstUnknown?_collected {declared : List Text} {fields : List (Text × Text)} {key : Text} :
    Keyed.firstUnknown? declared (collected fields) = some key ↔
      EarliestUndeclared declared fields key := by
  have same : Keyed.firstUnknown? declared (fields.map encodeField) =
      Keyed.firstUnknown? declared fields := by
    rw [Keyed.firstUnknown?, Keyed.firstUnknown?, keys_encodeField]
  rw [collected, Keyed.firstUnknown?_ofPairs, same, Keyed.firstUnknown?_eq_some]
  rfl

section

variable {declared : List Text} {d : Document} {t : Text} {fields : List (Text × Text)}
  (isText : text d = .ok t) (written : ¬ ∃ fault, MeetsSurrogate t fault)
  (shaped : ObjectText t fields)

include isText written shaped

theorem split_of_objectText : split d = .ok (collected fields) := by
  have parts := splitText_eq_ok_iff.2 ⟨fields, shaped, shaped.plain_of_not_meets written, rfl⟩
  exact split_eq_ok.2 ⟨t, isText, parts⟩

/-- Once a document is split, only its keys count. -/
theorem splitDeclared_of_objectText :
    splitDeclared declared d =
      match Keyed.firstUnknown? declared (collected fields) with
      | none => .ok (collected fields)
      | some name => .error (.unknownField name) := by
  rw [splitDeclared, split_of_objectText isText written shaped]
  rfl

theorem splitDeclared_eq_unknown {key : Text} :
    splitDeclared declared d = .error (.unknownField key) ↔
      EarliestUndeclared declared fields key := by
  rw [splitDeclared_of_objectText isText written shaped, ← firstUnknown?_collected]
  split
  next none => simp [none]
  next name some => simp [some]

theorem splitDeclared_of_declared (known : ∀ field ∈ fields, field.1 ∈ declared) :
    splitDeclared declared d = .ok (collected fields) := by
  have keys : ∀ key ∈ Keyed.keys (collected fields), key ∈ declared := by
    rw [keys_collected]
    simpa [Keyed.keys] using known
  exact splitDeclared_eq_ok.2 ⟨split_of_objectText isText written shaped, keys⟩

end

/-! ## One more field -/

/-- The second text is the first with one more field under the key, in front of another that has
the key. -/
inductive AddedEarlier (key : Text) : Text → Text → Prop where
  | mk {front back s slice : Text} {before after : List (Text × Text)}
      (earlier : FrontText front before) (rest : BackText back after)
      (member : FieldText s (key, slice)) (again : key ∈ Keyed.keys after) :
      AddedEarlier key (front ++ back) (front ++ (s ++ .ofChar ',' :: back))

theorem AddedEarlier.exists_fields {key t t' : Text} (added : AddedEarlier key t t') :
    ∃ before slice after, ObjectText t (before ++ after) ∧
      ObjectText t' (before ++ (key, slice) :: after) ∧ key ∈ Keyed.keys after := by
  cases added with
  | mk earlier rest member again =>
      exact ⟨_, _, _, earlier.objectText rest, earlier.objectText (rest.cons member), again⟩

/-- A field in front of another with its key changes no value. -/
theorem splitDeclared_of_added {declared : List Text} {d d' : Document} {key t t' : Text}
    (isText : text d = .ok t) (isText' : text d' = .ok t')
    (written : ¬ ∃ fault, MeetsSurrogate t fault) (written' : ¬ ∃ fault, MeetsSurrogate t' fault)
    (added : AddedEarlier key t t')
    {raws : Keyed Octets} (parted : splitDeclared declared d = .ok raws) :
    ∃ raws', splitDeclared declared d' = .ok raws' ∧
      ∀ name, Keyed.get? raws' name = Keyed.get? raws name := by
  obtain ⟨before, slice, after, shaped, shaped', again⟩ := added.exists_fields
  obtain ⟨whole, known⟩ := splitDeclared_eq_ok.1 parted
  obtain rfl := Except.ok.inj ((split_of_objectText isText written shaped).symm.trans whole)
  have declaredFields : ∀ field ∈ before ++ after, field.1 ∈ declared := by
    rw [keys_collected] at known
    intro field mem
    apply known
    rw [List.mem_eraseDups]
    exact List.mem_map_of_mem mem
  have declaredKey : key ∈ declared := by
    obtain ⟨field, mem, rfl⟩ := List.mem_map.1 again
    exact declaredFields field (List.mem_append_right before mem)
  refine ⟨_, splitDeclared_of_declared isText' written' shaped' ?_, fun name => ?_⟩
  · intro field mem
    rw [List.mem_append, List.mem_cons] at mem
    rcases mem with front | rfl | back
    · exact declaredFields field (List.mem_append_left after front)
    · exact declaredKey
    · exact declaredFields field (List.mem_append_right before back)
  · have again' : key ∈ Keyed.keys (after.map encodeField) := by rwa [keys_encodeField]
    rw [collected, collected, List.map_append, List.map_append, List.map_cons]
    exact Keyed.get?_ofPairs_of_again _ again' name

/-! ## Every document -/

/-- Splitting stops at the first value with a surrogate, if the text is that of an object up to
there; only text can come to that. Any other document is malformed if and only if it is not one
object or nests too deep, whatever is declared. Otherwise it fails with the earliest undeclared
key, if there is one, and if not, it gives the last value of each key. One more field under a
key, at any place in front of another with that key, changes no value. -/
theorem splitDeclared_outcome (declared : List Text) (d : Document) :
    (∀ fault, splitDeclared declared d = .error (.unsplit (.unencodable fault)) ↔
      ∃ t, text d = .ok t ∧ MeetsSurrogate t fault) ∧
    (d.IsPlain → ∀ t, text d = .ok t → ¬ ∃ fault, MeetsSurrogate t fault) ∧
    ((∃ why, splitDeclared declared d = .error (.unsplit (.malformed why))) ↔
      ¬ ∃ t, text d = .ok t ∧
        ((∃ fault, MeetsSurrogate t fault) ∨ IsObject t ∧ NestsWithin (depthLimit + 1) t)) ∧
    ∀ t, text d = .ok t → (¬ ∃ fault, MeetsSurrogate t fault) →
      (IsObject t → NestsWithin (depthLimit + 1) t → ∃ fields, ObjectText t fields) ∧
      (∀ fields, ObjectText t fields →
        (∀ key, splitDeclared declared d = .error (.unknownField key) ↔
          EarliestUndeclared declared fields key) ∧
        ((∀ field ∈ fields, field.1 ∈ declared) →
          ∃ raws, splitDeclared declared d = .ok raws ∧ HoldsLast fields raws) ∧
        ∀ before field after, fields = before ++ field :: after →
          ∃ front back, t = front ++ back ∧ FrontText front before ∧
            BackText back (field :: after)) ∧
      ∀ (d' : Document) (key t' : Text), text d' = .ok t' →
        (¬ ∃ fault, MeetsSurrogate t' fault) → AddedEarlier key t t' →
        ∀ raws, splitDeclared declared d = .ok raws →
          ∃ raws', splitDeclared declared d' = .ok raws' ∧
            ∀ name, Keyed.get? raws' name = Keyed.get? raws name := by
  refine ⟨fun fault => splitDeclared_eq_unsplit.trans split_eq_unencodable, ?_,
    exists_malformed_iff, fun t isText written => ⟨?_, ?_, ?_⟩⟩
  · rintro plain t isText ⟨fault, meets⟩
    exact not_meetsSurrogate_of_plain (plain_of_text plain isText) fault meets
  · exact fun object nests => object.objectText nests
  · intro fields shaped
    refine ⟨fun key => splitDeclared_eq_unknown isText written shaped, fun known => ?_, ?_⟩
    · have parted := splitDeclared_of_declared isText written shaped known
      exact ⟨_, parted, collected_holdsLast fields⟩
    · rintro before field after rfl
      exact shaped.exists_place
  · intro d' key t' isText' written' added raws parted
    exact splitDeclared_of_added isText isText' written written' added parted

/-- A value with a surrogate, in front of what is no JSON. -/
example :
    let high : CodePoint := ⟨0xD800, by decide⟩
    splitDeclared ["a"]
        (.text (Text.ofString "\x7b\"a\":\"" ++ high :: Text.ofString "\", NaN")) =
      .error (.unsplit (.unencodable ⟨high, 1, 1⟩)) := by
  decide +kernel

/-- One field, and the same with another in front of it that spells its key with an escape. -/
def lateText : Text := "\x7b\"a\":1\x7d"

def againText : Text := "\x7b \"\\u0061\" : [ ],\"a\":1\x7d"

theorem fieldText_late : FieldText "\"a\":1" ("a", "1") := by
  have spelled : Json.scanString (.ofChar '"' :: "a\"") = .ok ("a", []) := by decide +kernel
  have value : ValueText "1" := by decide +kernel
  have nothing : Blanks [] := by simp [Blanks]
  have whole := FieldText.mk (.mk nothing spelled nothing nothing) value nothing
  exact whole

theorem fieldText_early : FieldText " \"\\u0061\" : [ ]" ("a", "[ ]") := by
  have spelled : Json.scanString (.ofChar '"' :: "\\u0061\"") = .ok ("a", []) := by
    decide +kernel
  have value : ValueText "[ ]" := by decide +kernel
  have blank : Blanks " " := by unfold Blanks; decide
  have nothing : Blanks [] := by simp [Blanks]
  have whole := FieldText.mk (.mk blank spelled blank blank) value nothing
  exact whole

theorem splitDeclared_outcome_again :
    AddedEarlier "a" lateText againText ∧
      splitDeclared ["b"] (.octets (Utf8.encode againText)) = .error (.unknownField "a") ∧
      (∃ raws, splitDeclared ["b", "a"] (.octets (Utf8.encode lateText)) = .ok raws ∧
        Keyed.get? raws "a" = some (Utf8.encode "1") ∧ Keyed.get? raws "b" = none) ∧
      ∃ raws, splitDeclared ["b", "a"] (.octets (Utf8.encode againText)) = .ok raws ∧
        Keyed.get? raws "a" = some (Utf8.encode "1") ∧ Keyed.get? raws "b" = none := by
  have isLate : text (.octets (Utf8.encode lateText)) = .ok lateText := by decide +kernel
  have isAgain : text (.octets (Utf8.encode againText)) = .ok againText := by decide +kernel
  have nothing : Blanks [] := by simp [Blanks]
  have place : FrontText "\x7b" [] := .brace nothing
  have late : BackText "\"a\":1\x7d" [("a", "1")] := .mk (.last fieldText_late) nothing
  have shaped : ObjectText lateText [("a", "1")] := place.objectText late
  have shaped' : ObjectText againText [("a", "[ ]"), ("a", "1")] :=
    place.objectText (late.cons fieldText_early)
  have added : AddedEarlier "a" lateText againText :=
    .mk place late fieldText_early (by decide)
  obtain ⟨-, never, -, known⟩ :=
    splitDeclared_outcome ["b", "a"] (.octets (Utf8.encode lateText))
  obtain ⟨-, never', -, unknown⟩ := splitDeclared_outcome ["b"] (.octets (Utf8.encode againText))
  have written := never trivial _ isLate
  have written' := never' trivial _ isAgain
  obtain ⟨-, fromFields, fromAdded⟩ := known _ isLate written
  obtain ⟨raws, parted, holds⟩ := (fromFields _ shaped).2.1 (by decide)
  obtain ⟨raws', parted', same⟩ := fromAdded _ _ _ isAgain written' added raws parted
  have value : Keyed.get? raws "a" = some (Utf8.encode "1") :=
    holds.last [] "a" "1" [] rfl (by decide)
  have absent : Keyed.get? raws "b" = none := holds.absent "b" (by decide)
  refine ⟨added, ?_, ⟨raws, parted, value, absent⟩, raws', parted', ?_, ?_⟩
  · have first : EarliestUndeclared ["b"] [("a", "[ ]"), ("a", "1")] "a" :=
      ⟨[], "[ ]", [("a", "1")], rfl, by decide, by simp⟩
    exact (((unknown _ isAgain written').2.1 _ shaped').1 "a").2 first
  · rw [same, value]
  · rw [same, absent]

end BlockWire.RawFields
