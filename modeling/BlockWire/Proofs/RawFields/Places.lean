/- # Places in an object

A place for one more field is where an earlier field could stand: behind the brace or behind a
comma (`FrontText`), with the rest of the object following (`BackText`). Each field of an object
stands at such a place.

A document that comes as text may hold surrogates. A value with one has no octets, so
splitting stops behind the first such value; what follows it is never looked at
(`MeetsSurrogate`). Such a value is closed, so nothing that is added to the document changes
that. No document of octets comes to it (`not_meetsSurrogate_of_plain`). -/
import BlockWire.Proofs.RawFields.ObjectText

namespace BlockWire.RawFields

set_option autoImplicit false

open Json (Ends Reaches skipBlanks scanValue depthLimit)

/-! ## Both sides of a place -/

/-- The text of an object up to a place where a field may begin, with the fields it has. -/
inductive FrontText : Text → List (Text × Text) → Prop where
  | brace {blanks : Text} (areBlanks : Blanks blanks) :
      FrontText (blanks ++ [.ofChar '\x7b']) []
  | comma {front s : Text} {fields : List (Text × Text)} {field : Text × Text}
      (earlier : FrontText front fields) (member : FieldText s field) :
      FrontText (front ++ (s ++ [.ofChar ','])) (fields ++ [field])

/-- The text of an object from such a place on, with the fields it still has. -/
inductive BackText : Text → List (Text × Text) → Prop where
  | mk {inside behind : Text} {fields : List (Text × Text)} (each : FieldsText inside fields)
      (areBlanks : Blanks behind) : BackText (inside ++ .ofChar '\x7d' :: behind) fields

theorem BackText.cons {s back : Text} {field : Text × Text} {fields : List (Text × Text)}
    (member : FieldText s field) (rest : BackText back fields) :
    BackText (s ++ .ofChar ',' :: back) (field :: fields) := by
  cases rest with
  | @mk inside behind _ each areBlanks =>
      have whole := BackText.mk (.more member each) areBlanks
      rwa [List.append_assoc, List.cons_append] at whole

theorem BackText.exists_fieldText {back : Text} {field : Text × Text}
    {fields : List (Text × Text)} (rest : BackText back (field :: fields)) :
    ∃ s behind, back = s ++ behind ∧ FieldText s field := by
  cases rest with
  | @mk inside behind _ each areBlanks =>
      cases each with
      | last head => exact ⟨_, _, rfl, head⟩
      | more head tail => exact ⟨_, _, List.append_assoc _ _ _, head⟩

/-- Both sides of a place make up an object. -/
theorem FrontText.objectText {front back : Text} {before after : List (Text × Text)}
    (earlier : FrontText front before) (rest : BackText back after) :
    ObjectText (front ++ back) (before ++ after) := by
  induction earlier generalizing back after with
  | @brace blanks areBlanks =>
      cases rest with
      | mk each blanksBehind =>
          rw [List.append_assoc]
          exact .fields areBlanks each blanksBehind
  | comma _ member ih =>
      have whole := ih (rest.cons member)
      simpa only [List.append_assoc, List.cons_append, List.nil_append] using whole

theorem FieldsText.exists_place {inside front : Text} {before done after : List (Text × Text)}
    {field : Text × Text} (each : FieldsText inside (before ++ field :: after))
    (earlier : FrontText front done) :
    ∃ front' rest, front ++ inside = front' ++ rest ∧ FrontText front' (done ++ before) ∧
      FieldsText rest (field :: after) := by
  induction before generalizing inside front done with
  | nil => exact ⟨front, inside, rfl, by rwa [List.append_nil], each⟩
  | cons first before ih =>
      rw [List.cons_append] at each
      generalize more : before ++ field :: after = fields at each
      cases each with
      | last => simp at more
      | @more s t _ _ head tail =>
          subst more
          obtain ⟨front', rest, parted, earlier', each'⟩ := ih tail (.comma earlier head)
          refine ⟨front', rest, ?_, ?_, each'⟩
          · rw [← parted]
            simp
          · simpa using earlier'

/-- Each field of an object stands at such a place. -/
theorem ObjectText.exists_place {t : Text} {before after : List (Text × Text)}
    {field : Text × Text} (shaped : ObjectText t (before ++ field :: after)) :
    ∃ front back, t = front ++ back ∧ FrontText front before ∧ BackText back (field :: after) := by
  generalize stand : before ++ field :: after = fields at shaped
  cases shaped with
  | empty => simp at stand
  | @fields blanks inside behind _ areBlanks each blanksBehind =>
      subst stand
      obtain ⟨front, rest, parted, earlier, each'⟩ := each.exists_place (.brace areBlanks)
      refine ⟨front, _, ?_, earlier, .mk each' blanksBehind⟩
      rw [← List.append_assoc, ← parted]
      simp

/-! ## The value that has no octets -/

theorem rawValue_eq_unencodable {t : Text} {fault : Encoding.Unencodable} :
    rawValue t = .error (.unencodable fault) ↔
      ∃ slice rest, t = slice ++ rest ∧ ValueText slice ∧
        Encoding.encodeStrict slice = .error fault := by
  constructor
  · intro failed
    cases scanned : scanValue depthLimit t with
    | error e =>
        rw [rawValue, scanned] at failed
        cases e <;> simp at failed
    | ok found =>
        obtain ⟨v, left⟩ := found
        obtain ⟨slice, rfl, -, takes⟩ := Json.scanValue_local depthLimit scanned
        rw [rawValue_eq_encodeStrict scanned, bind_eq_error] at failed
        rcases failed with failed | ⟨_, _, same⟩
        · obtain ⟨cause, unwritten, same⟩ := mapError_eq_error.1 failed
          obtain rfl := Unsplit.unencodable.inj same
          exact ⟨slice, left, rfl, ⟨v, takes.whole⟩, unwritten⟩
        · cases same
  · rintro ⟨slice, rest, rfl, ⟨v, read⟩, unwritten⟩
    have surrogate := Encoding.exists_surrogate_of_unencodable unwritten
    rw [rawValue_eq_encodeStrict (Json.scanValue_append_of_surrogate read surrogate rest),
      unwritten]
    rfl

theorem rawMember_eq_unencodable {t : Text} {fault : Encoding.Unencodable} :
    rawMember t = .error (.unencodable fault) ↔
      ∃ u key named behind, t = .ofChar '"' :: u ∧ Json.scanString t = .ok (key, named) ∧
        skipBlanks named = .ofChar ':' :: behind ∧
        rawValue (skipBlanks behind) = .error (.unencodable fault) := by
  constructor
  · intro failed
    cases t with
    | nil => simp [rawMember] at failed
    | cons c u =>
        rw [rawMember] at failed
        split at failed
        next quote =>
          subst quote
          rcases bind_eq_error.1 failed with failed | ⟨⟨key, named⟩, string, failed⟩
          · obtain ⟨_, _, same⟩ := mapError_eq_error.1 failed
            cases same
          rw [mapError_eq_ok] at string
          simp only at failed
          split at failed
          · simp [expected] at failed
          next d behind colon =>
            split at failed
            next isColon =>
              subst isColon
              rcases bind_eq_error.1 failed with unread | ⟨_, _, same⟩
              · exact ⟨u, key, named, behind, rfl, string, colon, unread⟩
              · cases same
            · simp [expected] at failed
        · simp at failed
  · rintro ⟨u, key, named, behind, rfl, string, colon, unread⟩
    simp only [rawMember, if_true, string, Except.mapError, bind, Except.bind, colon, unread]

/-- Splitting gets as far as a value that holds a surrogate. -/
inductive MeetsSurrogate : Text → Encoding.Unencodable → Prop where
  | mk {front head slice rest key : Text} {fields : List (Text × Text)}
      {fault : Encoding.Unencodable} (earlier : FrontText front fields)
      (plain : ∀ field ∈ fields, ∀ c ∈ field.2, c.isSurrogate = false) (named : HeadText head key)
      (value : ValueText slice) (unwritten : Encoding.encodeStrict slice = .error fault) :
      MeetsSurrogate (front ++ (head ++ (slice ++ rest))) fault

theorem MeetsSurrogate.append {t : Text} {fault : Encoding.Unencodable}
    (meets : MeetsSurrogate t fault) (more : Text) : MeetsSurrogate (t ++ more) fault := by
  cases meets with
  | @mk front head slice rest key fields _ earlier plain named value unwritten =>
      have further : MeetsSurrogate (front ++ (head ++ (slice ++ (rest ++ more)))) fault :=
        .mk earlier plain named value unwritten
      simpa only [List.append_assoc] using further

theorem not_meetsSurrogate_of_plain {t : Text} (plain : ∀ c ∈ t, c.isSurrogate = false)
    (fault : Encoding.Unencodable) : ¬ MeetsSurrogate t fault := by
  rintro ⟨-, -, -, -, unwritten⟩
  obtain ⟨c, mem, surrogate⟩ := Encoding.exists_surrogate_of_unencodable unwritten
  have noSurrogate := plain c (by simp [mem])
  rw [surrogate] at noSurrogate
  cases noSurrogate

/-! ## Where splitting stops -/

/-- What is read in front of a member is the text of an object up to there. -/
theorem exists_frontText_of_reaches {t u : Text} {members : List (Text × Octets)}
    (reached : Reaches rawMember t members u) :
    ∀ {front before : Text} {done : List (Text × Text)}, FrontText front done →
      (∀ field ∈ done, ∀ c ∈ field.2, c.isSurrogate = false) → Blanks before →
      ∃ front' before' fields, front ++ (before ++ t) = front' ++ (before' ++ u) ∧
        Blanks before' ∧ FrontText front' fields ∧
        ∀ field ∈ fields, ∀ c ∈ field.2, c.isSurrogate = false := by
  induction reached with
  | here t => exact fun earlier plain blanks => ⟨_, _, _, rfl, blanks, earlier, plain⟩
  | @next t left behind u x xs head parted tail ih =>
      intro front before done earlier plain blanks
      obtain ⟨s, field, rfl, ⟨-, plainField⟩, shaped⟩ := rawMember_takesField head
      obtain ⟨blanks₁, areBlanks₁, spaced⟩ := exists_blanks left
      obtain ⟨blanks₂, areBlanks₂, spaced'⟩ := exists_blanks behind
      rw [parted] at spaced
      have plain' : ∀ field' ∈ done ++ [field], ∀ c ∈ field'.2, c.isSurrogate = false :=
        List.forall_mem_append.2 ⟨plain, List.forall_mem_singleton.2 plainField⟩
      obtain ⟨front', before', fields, same, rest⟩ :=
        ih (.comma earlier (shaped _ _ blanks areBlanks₁)) plain' areBlanks₂
      refine ⟨front', before', fields, ?_, rest⟩
      rw [← same, spaced, ← spaced']
      simp only [List.append_assoc, List.cons_append, List.nil_append]

/-- The text of an object is read up to where one more field may begin. -/
theorem FrontText.reaches {front : Text} {fields : List (Text × Text)}
    (earlier : FrontText front fields)
    (plain : ∀ field ∈ fields, ∀ c ∈ field.2, c.isSurrogate = false) (u : Text) :
    ∃ start, skipBlanks (front ++ u) = .ofChar '\x7b' :: start ∧
      Reaches rawMember (skipBlanks start) (fields.map encodeField) (skipBlanks u) := by
  induction earlier generalizing u with
  | brace areBlanks =>
      refine ⟨u, ?_, .here _⟩
      rw [List.append_assoc]
      exact skipBlanks_blanks areBlanks (stops_of_char (by decide) _)
  | @comma front s fields field _ member ih =>
      obtain ⟨plainFields, plainField⟩ := List.forall_mem_append.1 plain
      obtain ⟨behind, blanks, read⟩ := rawMember_of_fieldText member
        (plainField field List.mem_cons_self) (Ends.cons (c := .ofChar ',') (by decide) u)
      obtain ⟨start, opened, reached⟩ := ih plainFields (s ++ .ofChar ',' :: u)
      refine ⟨start, ?_, ?_⟩
      · rw [← opened]
        simp only [List.append_assoc, List.cons_append, List.nil_append]
      · rw [List.map_append]
        exact reached.snoc read (skipBlanks_blanks blanks (stops_of_char (by decide) _))

theorem items_rawMember_eq_unencodable {t : Text} {fault : Encoding.Unencodable} :
    Json.items rawMember (.ofChar '\x7d') unparted t = .error (.unencodable fault) ↔
      ∃ members u, Reaches rawMember (skipBlanks t) members u ∧
        rawMember u = .error (.unencodable fault) := by
  refine Json.items_eq_error Json.closer_brace rawMember_local rawMember_apart ?_ ?_
  · exact fun u same => nomatch same
  · intro rest failed
    simp [rawMember, show CodePoint.ofChar '\x7d' ≠ .ofChar '"' by decide] at failed

theorem splitText_unencodable_iff_items {t : Text} {fault : Encoding.Unencodable} :
    splitText t = .error (.unencodable fault) ↔
      ∃ start, skipBlanks t = .ofChar '\x7b' :: start ∧
        Json.items rawMember (.ofChar '\x7d') unparted start = .error (.unencodable fault) := by
  rw [splitText, bind_eq_error]
  constructor
  · rintro (failed | ⟨⟨members, left⟩, -, failed⟩)
    · cases stands : skipBlanks t with
      | nil => simp [stands, scanObject, expected] at failed
      | cons c start =>
          rw [stands, scanObject] at failed
          split at failed
          next brace => exact ⟨start, by rw [brace], failed⟩
          · simp [expected] at failed
    · simp only at failed
      split at failed <;> simp at failed
  · rintro ⟨start, opened, failed⟩
    refine .inl ?_
    rw [opened, scanObject, if_pos rfl, failed]

/-- Splitting fails for want of octets exactly if it gets as far as a value with a surrogate. -/
theorem splitText_eq_unencodable {t : Text} {fault : Encoding.Unencodable} :
    splitText t = .error (.unencodable fault) ↔ MeetsSurrogate t fault := by
  rw [splitText_unencodable_iff_items]
  simp only [items_rawMember_eq_unencodable]
  constructor
  · rintro ⟨start, opened, members, u, reached, failed⟩
    obtain ⟨v, key, named, behind, quote, string, colon, unread⟩ :=
      rawMember_eq_unencodable.1 failed
    obtain ⟨slice, rest, stands, value, unwritten⟩ := rawValue_eq_unencodable.1 unread
    obtain ⟨head, parted, headed⟩ := exists_headText quote string colon
    obtain ⟨blanks, areBlanks, spaced⟩ := exists_blanks t
    obtain ⟨blanks', areBlanks', spaced'⟩ := exists_blanks start
    obtain ⟨front, before, fields, same, blanksBefore, earlier, plain⟩ :=
      exists_frontText_of_reaches reached (.brace areBlanks) (by simp) areBlanks'
    have whole : t = front ++ (before ++ head ++ (slice ++ rest)) := by
      rw [List.append_assoc, ← stands, ← parted, ← same, ← spaced', List.append_assoc,
        List.singleton_append, ← opened]
      exact spaced
    rw [whole]
    exact .mk earlier plain (headed before blanksBefore) value unwritten
  · intro meets
    cases meets with
    | @mk front head slice rest key fields _ earlier plain headed value unwritten =>
        obtain ⟨v, token, -⟩ := value.takes
        obtain ⟨u, named, behind, quote, string, colon, stands⟩ := headed.named (token.solid rest)
        obtain ⟨start, opened, reached⟩ := earlier.reaches plain (head ++ (slice ++ rest))
        refine ⟨start, opened, _, _, reached, ?_⟩
        refine rawMember_eq_unencodable.2 ⟨u, key, named, behind, quote, string, colon, ?_⟩
        rw [stands]
        exact rawValue_eq_unencodable.2 ⟨slice, rest, rfl, value, unwritten⟩

/-- Of the values of an object with a surrogate the first is met. -/
theorem ObjectText.plain_of_not_meets {t : Text} {fields : List (Text × Text)}
    (shaped : ObjectText t fields) (never : ¬ ∃ fault, MeetsSurrogate t fault) :
    ∀ field ∈ fields, ∀ c ∈ field.2, c.isSurrogate = false := by
  cases first : fields.find? fun field => (Encoding.unencodable? field.2).isSome with
  | none =>
      intro field mem
      have written := List.find?_eq_none.1 first field mem
      rw [Bool.not_eq_true, Option.isSome_eq_false_iff, Option.isNone_iff_eq_none] at written
      exact Encoding.unencodable?_eq_none.1 written
  | some field =>
      obtain ⟨unwritten, before, after, rfl, written⟩ := List.find?_eq_some_iff_append.1 first
      obtain ⟨fault, found⟩ := Option.isSome_iff_exists.1 unwritten
      have plain : ∀ field ∈ before, ∀ c ∈ field.2, c.isSurrogate = false := by
        intro field mem
        have none := written field mem
        rw [Bool.not_eq_true', Option.isSome_eq_false_iff, Option.isNone_iff_eq_none] at none
        exact Encoding.unencodable?_eq_none.1 none
      obtain ⟨front, back, rfl, earlier, later⟩ := shaped.exists_place
      have fails : Encoding.encodeStrict field.2 = .error fault := by
        rw [Encoding.encodeStrict, found]
      refine absurd ⟨fault, ?_⟩ never
      obtain ⟨s, behind, rfl, member⟩ := later.exists_fieldText
      cases member with
      | @mk head slice blanks key headed value _ =>
          rw [List.append_assoc, List.append_assoc]
          exact .mk earlier plain headed value fails

end BlockWire.RawFields
