/- # The text of an object

`ObjectText t fields` says by shape alone that a text is one object with such fields,
each with its key and the text of its value, in the order in which they stand there:
between braces, with blanks around, nothing or fields parted by commas. A field is a
string that spells its key, a colon and the text of one value.

Whatever is read as an object has this shape, by whichever scan (`objectText_of_items`).
Splitting accepts exactly such texts, as long as no value in them holds a surrogate, and
keeps the octets of the texts of the values (`splitText_eq_ok_iff`). Each of these is a
slice of the whole with no blank at either end (`ObjectText.slice`). -/
import BlockWire.Proofs.RawFields.Join
import Mathlib.Data.List.TakeWhile

namespace BlockWire.RawFields

set_option autoImplicit false

open Json (Scan Parted Takes Token Ends IsMember skipBlanks scanValue scanString depthLimit)

def Blanks (t : Text) : Prop := ∀ c ∈ t, Json.isBlank c = true

/-- The text of one value that can be read, with nothing in front of it or behind it. -/
def ValueText (s : Text) : Prop := ∃ v, scanValue depthLimit s = .ok (v, [])

/-- A field up to its value: a string that spells the key, and a colon. -/
inductive HeadText : Text → Text → Prop where
  | mk {before name beforeColon behindColon key : Text} (blanks₁ : Blanks before)
      (spelled : scanString (.ofChar '"' :: name) = .ok (key, [])) (blanks₂ : Blanks beforeColon)
      (blanks₃ : Blanks behindColon) :
      HeadText (before ++ .ofChar '"' :: (name ++ (beforeColon ++ .ofChar ':' :: behindColon))) key

inductive FieldText : Text → Text × Text → Prop where
  | mk {head slice behind key : Text} (named : HeadText head key) (value : ValueText slice)
      (blanks : Blanks behind) : FieldText (head ++ (slice ++ behind)) (key, slice)

inductive FieldsText : Text → List (Text × Text) → Prop where
  | last {t : Text} {field : Text × Text} (head : FieldText t field) : FieldsText t [field]
  | more {s t : Text} {field : Text × Text} {fields : List (Text × Text)}
      (head : FieldText s field) (tail : FieldsText t fields) :
      FieldsText (s ++ .ofChar ',' :: t) (field :: fields)

inductive ObjectText : Text → List (Text × Text) → Prop where
  | empty {before inside behind : Text} (blanks₁ : Blanks before) (blanks₂ : Blanks inside)
      (blanks₃ : Blanks behind) :
      ObjectText (before ++ .ofChar '\x7b' :: (inside ++ .ofChar '\x7d' :: behind)) []
  | fields {before inside behind : Text} {fields : List (Text × Text)} (blanks₁ : Blanks before)
      (each : FieldsText inside fields) (blanks₂ : Blanks behind) :
      ObjectText (before ++ .ofChar '\x7b' :: (inside ++ .ofChar '\x7d' :: behind)) fields

/-! ## Values and keys -/

theorem ValueText.takes {s : Text} (value : ValueText s) :
    ∃ v, Token s ∧ Takes (scanValue depthLimit) s v := by
  obtain ⟨v, read⟩ := value
  obtain ⟨s', same, token, takes⟩ := Json.scanValue_local depthLimit read
  rw [List.append_nil] at same
  exact ⟨v, same ▸ token, same ▸ takes⟩

theorem valueText_iff {s : Text} :
    Prod.snd <$> scanValue depthLimit s = .ok [] ↔ ValueText s := by
  rw [map_eq_ok]
  constructor
  · rintro ⟨⟨v, left⟩, read, rfl⟩
    exact ⟨v, read⟩
  · rintro ⟨v, read⟩
    exact ⟨(v, []), read, rfl⟩

instance (s : Text) : Decidable (ValueText s) := decidable_of_iff _ valueText_iff

/-- A string that is spelled is read alike whatever stands behind it. -/
theorem scanString_append {name key : Text}
    (spelled : scanString (.ofChar '"' :: name) = .ok (key, [])) (rest : Text) :
    scanString (.ofChar '"' :: (name ++ rest)) = .ok (key, rest) := by
  obtain ⟨body, rfl, -, same⟩ := Json.scanString_local spelled
  rw [List.append_assoc]
  exact same rest

theorem stops_of_char {c : CodePoint} (solid : Json.isBlank c = false) (rest : Text) :
    Json.Stops Json.isBlank (c :: rest) := Json.stops_cons.2 solid

/-- Blanks in front are skipped up to what is no blank. -/
theorem skipBlanks_blanks {blanks rest : Text} (areBlanks : Blanks blanks)
    (solid : Json.Stops Json.isBlank rest) : skipBlanks (blanks ++ rest) = rest :=
  Json.skipBlanks_append areBlanks solid

theorem skipBlanks_eq_nil {t : Text} : skipBlanks t = [] ↔ Blanks t := List.dropWhile_eq_nil_iff

theorem exists_blanks (t : Text) : ∃ blanks, Blanks blanks ∧ t = blanks ++ skipBlanks t := by
  obtain ⟨blanks, parted, areBlanks⟩ := Json.exists_span Json.isBlank t
  exact ⟨blanks, areBlanks, parted⟩

/-! ## From the scan to the shape -/

/-- What stands in front of a value, once its blanks are skipped, is the head of a field. -/
theorem exists_headText {t u named behind key : Text} (quote : t = .ofChar '"' :: u)
    (string : scanString t = .ok (key, named)) (colon : skipBlanks named = .ofChar ':' :: behind) :
    ∃ head, t = head ++ skipBlanks behind ∧
      ∀ before, Blanks before → HeadText (before ++ head) key := by
  subst quote
  obtain ⟨body, rfl, -, sameString⟩ := Json.scanString_local string
  obtain ⟨blanks, areBlanks, spaced⟩ := exists_blanks named
  obtain ⟨blanks', areBlanks', spaced'⟩ := exists_blanks behind
  rw [colon] at spaced
  refine ⟨.ofChar '"' :: (body ++ [.ofChar '"'] ++ (blanks ++ .ofChar ':' :: blanks')), ?_, ?_⟩
  · rw [spaced]
    nth_rewrite 1 [spaced']
    simp only [List.append_assoc, List.cons_append, List.nil_append]
  · intro before blanksBefore
    have head := HeadText.mk blanksBefore (sameString []) areBlanks areBlanks'
    simpa only [List.append_assoc, List.cons_append, List.nil_append] using head

section

variable {ε α : Type} {R : α → Text × Text → Prop}

/-- What `item` takes is a field that its value is related to, whatever blanks stand around. -/
def TakesField (item : Scan ε α) (R : α → Text × Text → Prop) : Prop :=
  ∀ ⦃t left : Text⦄ ⦃x : α⦄, item t = .ok (x, left) → ∃ s field, t = s ++ left ∧ R x field ∧
    ∀ before behind, Blanks before → Blanks behind → FieldText (before ++ (s ++ behind)) field

/-- Members are fields if what stands for their values is the text of a value. -/
theorem exists_fieldText {value : Scan ε α} {t left : Text} {member : Text × α}
    {P : α → Text → Prop}
    (spans : ∀ {t left x}, value t = .ok (x, left) → ∃ s, t = s ++ left ∧ ValueText s ∧ P x s)
    (read : IsMember value t member left) :
    ∃ s slice, t = s ++ left ∧ P member.2 slice ∧ ∀ before behind, Blanks before →
      Blanks behind → FieldText (before ++ (s ++ behind)) (member.1, slice) := by
  obtain ⟨u, named, behind, quote, string, colon, inside⟩ := read
  obtain ⟨head, parted, headed⟩ := exists_headText quote string colon
  obtain ⟨slice, stands, value, related⟩ := spans inside
  refine ⟨head ++ slice, slice, ?_, related, fun before behind blanksBefore blanksBehind => ?_⟩
  · rw [parted, stands, List.append_assoc]
  · have field := FieldText.mk (headed before blanksBefore) value blanksBehind
    simpa only [List.append_assoc] using field

theorem fieldsText_of_parted {item : Scan ε α} (each : TakesField item R) {t rest : Text}
    {xs : List α} (read : Parted item (.ofChar '\x7d') t xs rest) :
    ∀ before, Blanks before → ∃ inside fields, before ++ t = inside ++ .ofChar '\x7d' :: rest ∧
      List.Forall₂ R xs fields ∧ FieldsText inside fields := by
  induction read with
  | @last t left rest x head closed =>
      intro before blanksBefore
      obtain ⟨s, field, rfl, related, shaped⟩ := each head
      obtain ⟨blanks, areBlanks, spaced⟩ := exists_blanks left
      rw [closed] at spaced
      refine ⟨before ++ (s ++ blanks), [field], ?_, .cons related .nil,
        .last (shaped _ _ blanksBefore areBlanks)⟩
      rw [spaced]
      simp only [List.append_assoc]
  | @more t left behind rest x xs head parted tail ih =>
      intro before blanksBefore
      obtain ⟨s, field, rfl, related, shaped⟩ := each head
      obtain ⟨blanks, areBlanks, spaced⟩ := exists_blanks left
      obtain ⟨blanks', areBlanks', spaced'⟩ := exists_blanks behind
      obtain ⟨inside, fields, later, relatedLater, fieldsLater⟩ := ih blanks' areBlanks'
      rw [parted, spaced', later] at spaced
      refine ⟨before ++ (s ++ blanks) ++ .ofChar ',' :: inside, field :: fields, ?_,
        .cons related relatedLater, .more (shaped _ _ blanksBefore areBlanks) fieldsLater⟩
      rw [spaced]
      simp only [List.append_assoc, List.cons_append]

/-- Items between braces that take fields are the fields of an object. -/
theorem objectText_of_items {item : Scan ε α} (each : TakesField item R)
    (near : Json.Local item) (apart : Json.Apart item (.ofChar '\x7d')) {unparted : Text → ε}
    {t rest left : Text} {xs : List α} (opened : skipBlanks t = .ofChar '\x7b' :: rest)
    (inside : Json.items item (.ofChar '\x7d') unparted rest = .ok (xs, left))
    (nothing : skipBlanks left = []) :
    ∃ fields, ObjectText t fields ∧ List.Forall₂ R xs fields := by
  obtain ⟨before, blanks₁, spaced⟩ := exists_blanks t
  obtain ⟨blanks, areBlanks, spaced'⟩ := exists_blanks rest
  have blanks₃ : Blanks left := skipBlanks_eq_nil.1 nothing
  rw [opened] at spaced
  rcases (Json.items_eq_ok Json.closer_brace near apart).1 inside with ⟨closed, rfl⟩ | parted
  · rw [spaced, spaced', closed]
    exact ⟨[], .empty blanks₁ areBlanks blanks₃, .nil⟩
  · obtain ⟨inside, fields, stands, related, shaped⟩ :=
      fieldsText_of_parted each parted blanks areBlanks
    rw [spaced, spaced', stands]
    exact ⟨fields, .fields blanks₁ shaped blanks₃, related⟩

end

/-- A raw member is a field of which the octets of its value are kept. -/
theorem rawMember_takesField : TakesField rawMember fun member field =>
    member = encodeField field ∧ ∀ c ∈ field.2, c.isSurrogate = false := by
  intro t left member read
  have spans {t left raw} (value : rawValue t = .ok (raw, left)) : ∃ s, t = s ++ left ∧
      ValueText s ∧ raw = Utf8.encode s ∧ ∀ c ∈ s, c.isSurrogate = false := by
    obtain ⟨s, v, stands, octets, plain, -, takes, -⟩ := rawValue_eq_ok.1 value
    exact ⟨s, stands, ⟨v, takes.whole⟩, octets, plain⟩
  obtain ⟨s, slice, parted, ⟨octets, plain⟩, shaped⟩ :=
    exists_fieldText spans (rawMember_eq_ok.1 read)
  refine ⟨s, (member.1, slice), parted, ⟨?_, plain⟩, shaped⟩
  rw [encodeField, ← octets]

theorem scanMember_takesField :
    TakesField (Json.scanMember (scanValue depthLimit)) fun _ _ => True := by
  intro t left member read
  have spans {t left v} (value : scanValue depthLimit t = .ok (v, left)) : ∃ s, t = s ++ left ∧
      ValueText s ∧ True := by
    obtain ⟨s, stands, -, takes⟩ := Json.scanValue_local depthLimit value
    exact ⟨s, stands, ⟨v, takes.whole⟩, trivial⟩
  obtain ⟨s, slice, parted, -, shaped⟩ := exists_fieldText spans (Json.scanMember_eq_ok.1 read)
  exact ⟨s, (member.1, slice), parted, trivial, shaped⟩

/-- Whatever is read as an object is the text of one. -/
theorem objectText_of_scanned {t left : Text} {members : Keyed Json}
    (value : scanValue (depthLimit + 1) (skipBlanks t) = .ok (.obj members, left))
    (nothing : skipBlanks left = []) : ∃ fields, ObjectText t fields := by
  obtain ⟨rest, pairs, opened, inside, rfl⟩ := Json.scanValue_eq_obj.1 value
  obtain ⟨fields, shaped, -⟩ := objectText_of_items scanMember_takesField
    (Json.scanMember_local (Json.scanValue_local _)) (Json.scanMember_apart _) opened inside nothing
  exact ⟨fields, shaped⟩

/-! ## From the shape to the scan -/

/-- The head of a field is read up to its value. -/
theorem HeadText.named {head key rest : Text} (headed : HeadText head key)
    (solid : Json.Stops Json.isBlank rest) :
    ∃ u named behind, skipBlanks (head ++ rest) = .ofChar '"' :: u ∧
      scanString (skipBlanks (head ++ rest)) = .ok (key, named) ∧
      skipBlanks named = .ofChar ':' :: behind ∧ skipBlanks behind = rest := by
  cases headed with
  | @mk before name beforeColon behindColon _ blanks₁ spelled blanks₂ blanks₃ =>
      simp only [List.append_assoc, List.cons_append]
      rw [skipBlanks_blanks blanks₁ (stops_of_char (by decide) _)]
      exact ⟨_, _, _, rfl, scanString_append spelled _,
        skipBlanks_blanks blanks₂ (stops_of_char (by decide) _), skipBlanks_blanks blanks₃ solid⟩

theorem rawMember_of_fieldText {t : Text} {field : Text × Text} (shaped : FieldText t field)
    (plain : ∀ c ∈ field.2, c.isSurrogate = false) {rest : Text} (ends : Ends rest) :
    ∃ behind, Blanks behind ∧
      rawMember (skipBlanks (t ++ rest)) = .ok (encodeField field, behind ++ rest) := by
  cases shaped with
  | @mk head slice behind key headed value blanks =>
      obtain ⟨v, token, takes⟩ := value.takes
      obtain ⟨u, named, after, quote, string, colon, stands⟩ :=
        headed.named (token.solid (behind ++ rest))
      refine ⟨behind, blanks, ?_⟩
      rw [List.append_assoc, List.append_assoc]
      refine rawMember_eq_ok.2 ⟨u, named, after, quote, string, colon, ?_⟩
      rw [stands]
      exact rawValue_of_takes takes plain _ (Ends.append blanks ends)

theorem parted_of_fieldsText {inside : Text} {fields : List (Text × Text)}
    (each : FieldsText inside fields)
    (plain : ∀ field ∈ fields, ∀ c ∈ field.2, c.isSurrogate = false) (rest : Text) :
    Parted rawMember (.ofChar '\x7d') (skipBlanks (inside ++ .ofChar '\x7d' :: rest))
      (fields.map encodeField) rest := by
  induction each with
  | last head =>
      obtain ⟨behind, blanks, read⟩ := rawMember_of_fieldText head
        (plain _ List.mem_cons_self) (Ends.cons Json.closer_brace.ends rest)
      exact .last read (skipBlanks_blanks blanks (stops_of_char (by decide) _))
  | @more s t field fields head tail ih =>
      obtain ⟨here, later⟩ := List.forall_mem_cons.1 plain
      rw [List.append_assoc, List.cons_append]
      obtain ⟨behind, blanks, read⟩ := rawMember_of_fieldText head here
        (Ends.cons (c := .ofChar ',') (by decide) (t ++ .ofChar '\x7d' :: rest))
      exact .more read (skipBlanks_blanks blanks (stops_of_char (by decide) _)) (ih later)

/-! ## The whole object -/

theorem eq_map_encodeField {pairs : List (Text × Octets)} {fields : List (Text × Text)}
    (related : List.Forall₂ (fun pair field =>
      pair = encodeField field ∧ ∀ c ∈ field.2, c.isSurrogate = false) pairs fields) :
    pairs = fields.map encodeField ∧
      ∀ field ∈ fields, ∀ c ∈ field.2, c.isSurrogate = false := by
  induction related with
  | nil => exact ⟨rfl, by simp⟩
  | cons head _ ih =>
      obtain ⟨rfl, plain⟩ := head
      obtain ⟨rfl, later⟩ := ih
      exact ⟨rfl, List.forall_mem_cons.2 ⟨plain, later⟩⟩

/-- Splitting accepts exactly the texts of objects without surrogates in their values. What it
gives is what their fields come to, with the octets of the text of each value. -/
theorem splitText_eq_ok_iff {t : Text} {raws : Keyed Octets} :
    splitText t = .ok raws ↔
      ∃ fields, ObjectText t fields ∧ (∀ field ∈ fields, ∀ c ∈ field.2, c.isSurrogate = false) ∧
        raws = Keyed.ofPairs (fields.map encodeField) := by
  rw [splitText_eq_ok]
  constructor
  · rintro ⟨rest, pairs, left, opened, inside, ends, rfl⟩
    obtain ⟨fields, shaped, related⟩ := objectText_of_items rawMember_takesField rawMember_local
      rawMember_apart opened inside ends
    obtain ⟨rfl, plain⟩ := eq_map_encodeField related
    exact ⟨fields, shaped, plain, rfl⟩
  · rintro ⟨fields, shaped, plain, rfl⟩
    simp only [Json.items_eq_ok Json.closer_brace rawMember_local rawMember_apart]
    cases shaped with
    | @empty before inside behind blanks₁ blanks₂ blanks₃ =>
        refine ⟨_, [], behind, skipBlanks_blanks blanks₁ (stops_of_char (by decide) _), .inl ?_,
          ?_, rfl⟩
        · exact ⟨skipBlanks_blanks blanks₂ (stops_of_char (by decide) _), rfl⟩
        · exact skipBlanks_eq_nil.2 blanks₃
    | @fields before inside behind _ blanks₁ each blanks₂ =>
        refine ⟨_, _, behind, skipBlanks_blanks blanks₁ (stops_of_char (by decide) _),
          .inr (parted_of_fieldsText each plain behind), skipBlanks_eq_nil.2 blanks₂, rfl⟩

/-! ## Slices -/

/-- No blank stands at either end. -/
structure Trimmed (s : Text) : Prop where
  starts : ∃ c, s.head? = some c ∧ Json.isBlank c = false
  stops : ∃ c, s.getLast? = some c ∧ Json.isBlank c = false

theorem ValueText.trimmed {s : Text} (value : ValueText s) : Trimmed s := by
  obtain ⟨v, token, -⟩ := value.takes
  obtain ⟨c, rest, rfl, solid, -⟩ := token.starts
  exact ⟨⟨c, rfl, solid⟩, token.stops⟩

theorem FieldText.slice {t : Text} {field : Text × Text} (shaped : FieldText t field) :
    field.2 <:+: t ∧ ValueText field.2 := by
  cases shaped with
  | @mk head slice behind key _ value _ => exact ⟨⟨head, behind, List.append_assoc _ _ _⟩, value⟩

theorem FieldsText.parts {t : Text} {fields : List (Text × Text)} (shaped : FieldsText t fields) :
    ∀ field ∈ fields, ∃ s, s <:+: t ∧ FieldText s field := by
  induction shaped with
  | last head => exact List.forall_mem_singleton.2 ⟨_, List.infix_rfl, head⟩
  | @more s t field fields head tail ih =>
      refine List.forall_mem_cons.2 ⟨⟨s, (List.prefix_append s _).isInfix, head⟩, ?_⟩
      intro field mem
      obtain ⟨u, part, shapedField⟩ := ih field mem
      have behind : t <:+ s ++ .ofChar ',' :: t :=
        (List.suffix_cons _ t).trans (List.suffix_append s _)
      exact ⟨u, part.trans behind.isInfix, shapedField⟩

/-- Each field of an object has a part of the text of its own. -/
theorem ObjectText.parts {t : Text} {fields : List (Text × Text)} (shaped : ObjectText t fields) :
    ∀ field ∈ fields, ∃ s, s <:+: t ∧ FieldText s field := by
  cases shaped with
  | empty => simp
  | @fields before inside behind fields _ each _ =>
      intro field mem
      obtain ⟨s, part, shapedField⟩ := each.parts field mem
      have whole : inside <:+: before ++ .ofChar '\x7b' :: (inside ++ .ofChar '\x7d' :: behind) :=
        ⟨before ++ [.ofChar '\x7b'], .ofChar '\x7d' :: behind, by simp⟩
      exact ⟨s, part.trans whole, shapedField⟩

/-- What is kept of a value is a slice of the object's text. -/
theorem ObjectText.slice {t : Text} {fields : List (Text × Text)} (shaped : ObjectText t fields) :
    ∀ field ∈ fields, field.2 <:+: t ∧ ValueText field.2 := by
  intro field mem
  obtain ⟨s, part, shapedField⟩ := shaped.parts field mem
  obtain ⟨slice, value⟩ := shapedField.slice
  exact ⟨slice.trans part, value⟩

/-- A text without surrogates that is scanned as an object, with the level of a raw field more,
can be split. -/
theorem exists_split_of_scanned {t left : Text} (plain : ∀ c ∈ t, c.isSurrogate = false)
    {members : Keyed Json}
    (value : scanValue (depthLimit + 1) (skipBlanks t) = .ok (.obj members, left))
    (nothing : skipBlanks left = []) : ∃ raws, splitText t = .ok raws := by
  obtain ⟨fields, shaped⟩ := objectText_of_scanned value nothing
  refine ⟨_, splitText_eq_ok_iff.2 ⟨fields, shaped, fun field mem c within => ?_, rfl⟩⟩
  exact plain c ((shaped.slice field mem).1.subset within)

end BlockWire.RawFields
