/- # Where an object ends

The text of an object ends with a brace and then nothing but blanks. What stands behind it
is looked at only once the object is complete, so a text that splits still does with more
behind it exactly if what is added is blanks, and then nothing changes (`splitText_append`).
A text that was cut off before the brace would be such a text itself, with the brace added;
so it does not split. Nor does it come to a value with a surrogate, since the whole text would
come to that value too (`exists_malformed_of_prefix`).

A document is octets or code points, and can be cut anywhere between them. That a cut inside
of a code point makes no text is a matter of how code points are spelled there (`Spelling`):
no spelling is the beginning of another. -/
import BlockWire.Body.Decode
import BlockWire.Proofs.RawFields.Places

namespace BlockWire

set_option autoImplicit false

namespace RawFields

open Json (isBlank skipBlanks)

/-! ## Texts -/

theorem blanks_append {s t : Text} : Blanks (s ++ t) ↔ Blanks s ∧ Blanks t :=
  List.forall_mem_append

theorem exists_brace {t : Text} {raws : Keyed Octets} (parted : splitText t = .ok raws) :
    ∃ front behind, t = front ++ .ofChar '\x7d' :: behind ∧ Blanks behind := by
  obtain ⟨fields, shaped, -⟩ := splitText_eq_ok_iff.1 parted
  cases shaped with
  | @empty before inside behind _ _ blanks =>
      exact ⟨before ++ .ofChar '\x7b' :: inside, behind, by simp, blanks⟩
  | @fields before inside behind _ _ _ blanks =>
      exact ⟨before ++ .ofChar '\x7b' :: inside, behind, by simp, blanks⟩

/-- Only what is added behind an object counts, and only whether it is blanks. -/
theorem splitText_append {t : Text} {raws : Keyed Octets} (parted : splitText t = .ok raws)
    (u : Text) :
    splitText (t ++ u) =
      match skipBlanks u with
      | [] => .ok raws
      | c :: rest => .error (.malformed (.trailing (c :: rest))) := by
  obtain ⟨rest, pairs, left, opened, inside, ends, rfl⟩ := splitText_eq_ok.1 parted
  obtain ⟨s, rfl, -, same⟩ :=
    Json.items_local Json.closer_brace rawMember_local rawMember_apart inside
  have opened' : skipBlanks (t ++ u) =
      .ofChar '\x7b' :: (s ++ .ofChar '\x7d' :: (left ++ u)) := by
    obtain ⟨before, areBlanks, spaced⟩ := exists_blanks t
    rw [opened] at spaced
    rw [spaced, List.append_assoc, List.cons_append,
      skipBlanks_blanks areBlanks (stops_of_char (by decide) _), List.append_assoc,
      List.cons_append]
  have ends' : skipBlanks (left ++ u) = skipBlanks u :=
    List.dropWhile_append_of_pos (skipBlanks_eq_nil.1 ends)
  have object : scanObject (skipBlanks (t ++ u)) = .ok (pairs, left ++ u) := by
    rw [opened', scanObject, if_pos rfl, same]
  rw [splitText, object, ← ends']
  rfl

theorem splitText_append_eq_ok {t u : Text} {raws raws' : Keyed Octets}
    (parted : splitText t = .ok raws) :
    splitText (t ++ u) = .ok raws' ↔ Blanks u ∧ raws' = raws := by
  rw [splitText_append parted, ← skipBlanks_eq_nil]
  cases skipBlanks u with
  | nil => simp [eq_comm]
  | cons c rest => simp

theorem exists_malformed_of_more {t u : Text} {raws : Keyed Octets}
    (parted : splitText t = .ok raws) (solid : ¬ Blanks u) :
    ∃ why, splitText (t ++ u) = .error (.malformed why) := by
  rw [splitText_append parted]
  cases stands : skipBlanks u with
  | nil => exact absurd (skipBlanks_eq_nil.1 stands) solid
  | cons c rest => exact ⟨_, rfl⟩

/-- What is in front of the brace is malformed, and so is any beginning of it. -/
theorem exists_malformed_of_prefix {front behind cut : Text} {raws : Keyed Octets}
    (parted : splitText (front ++ .ofChar '\x7d' :: behind) = .ok raws) (isCut : cut <+: front) :
    ∃ why, splitText cut = .error (.malformed why) := by
  obtain ⟨u, rfl⟩ := isCut
  rw [List.append_assoc] at parted
  cases complete : splitText cut with
  | ok raws' =>
      rw [splitText_append_eq_ok complete, blanks_append] at parted
      have brace := parted.1.2 _ List.mem_cons_self
      exact absurd brace (by decide)
  | error why =>
      cases why with
      | malformed why => exact ⟨why, rfl⟩
      | unencodable fault =>
          have meets := (splitText_eq_unencodable.1 complete).append (u ++ .ofChar '\x7d' :: behind)
          rw [splitText_eq_unencodable.2 meets] at parted
          cases parted

/-- A document is malformed if its text is, or if it is no text. -/
theorem exists_malformed_of_text {d : Document}
    (each : ∀ t, text d = .ok t → ∃ why, splitText t = .error (.malformed why)) :
    ∃ why, split d = .error (.malformed why) := by
  cases isText : text d with
  | error fault =>
      refine ⟨.encoding fault, ?_⟩
      rw [split, isText]
      rfl
  | ok t =>
      obtain ⟨why, failed⟩ := each t isText
      refine ⟨why.map (Json.Place.of t), ?_⟩
      simp only [split, isText, failed, Except.mapError, bind, Except.bind, Unsplit.map]

/-! ## Spellings -/

theorem blank_cases {c : CodePoint} (blank : isBlank c = true) :
    c = .ofChar ' ' ∨ c = .ofChar '\t' ∨ c = .ofChar '\n' ∨ c = .ofChar '\r' := by
  simpa only [isBlank, Bool.or_eq_true, decide_eq_true_eq, or_assoc] using blank

/-- How code points are spelled in a kind of document, and which of them can be: none as the
beginning of another, and blanks and the brace by one sign each. -/
structure Spelling {α : Type} (document : List α → Document) (admits : CodePoint → Prop)
    (spell : CodePoint → List α) (blanks : List α) (brace : α) : Prop where
  text_eq_ok : ∀ content t, text (document content) = .ok t ↔
    content = t.flatMap spell ∧ ∀ c ∈ t, admits c
  apart : ∀ c d more more', admits c → admits d → spell c ++ more = spell d ++ more' → c = d
  nonempty : ∀ c, spell c ≠ []
  blank : ∀ c, isBlank c = true → admits c ∧ ∃ x ∈ blanks, spell c = [x]
  ofBlank : ∀ x ∈ blanks, ∃ c, isBlank c = true ∧ spell c = [x]
  brace_eq : spell (.ofChar '\x7d') = [brace]

namespace Spelling

variable {α : Type} {document : List α → Document} {admits : CodePoint → Prop}
  {spell : CodePoint → List α} {blanks : List α} {brace : α}

theorem exists_rest (spelling : Spelling document admits spell blanks brace) {s t : Text}
    (whole : ∀ c ∈ s, admits c) (whole' : ∀ c ∈ t, admits c) {more : List α}
    (same : s.flatMap spell ++ more = t.flatMap spell) :
    ∃ u, t = s ++ u ∧ more = u.flatMap spell := by
  induction s generalizing t with
  | nil => exact ⟨t, rfl, same⟩
  | cons c s ih =>
      obtain ⟨here, later⟩ := List.forall_mem_cons.1 whole
      cases t with
      | nil =>
          rw [List.flatMap_cons, List.append_assoc] at same
          exact absurd (List.append_eq_nil_iff.1 same).1 (spelling.nonempty c)
      | cons d t =>
          obtain ⟨here', later'⟩ := List.forall_mem_cons.1 whole'
          rw [List.flatMap_cons, List.flatMap_cons, List.append_assoc] at same
          -- No spelling begins another, so both texts begin with the same code point.
          obtain rfl := spelling.apart c d _ _ here here' same
          obtain ⟨u, rfl, spelled⟩ := ih later later' (List.append_cancel_left same)
          exact ⟨u, rfl, spelled⟩

/-- A document that goes on after a text is one whose text goes on. -/
theorem text_append (spelling : Spelling document admits spell blanks brace)
    {content more : List α} {t t' : Text} (isText : text (document content) = .ok t)
    (isText' : text (document (content ++ more)) = .ok t') :
    ∃ u, t' = t ++ u ∧ more = u.flatMap spell := by
  obtain ⟨rfl, whole⟩ := (spelling.text_eq_ok _ _).1 isText
  obtain ⟨same, whole'⟩ := (spelling.text_eq_ok _ _).1 isText'
  exact spelling.exists_rest whole whole' same

theorem mem_blanks (spelling : Spelling document admits spell blanks brace) {u : Text}
    (areBlanks : Blanks u) : ∀ x ∈ u.flatMap spell, x ∈ blanks := by
  intro x mem
  obtain ⟨c, inText, inSpelling⟩ := List.mem_flatMap.1 mem
  obtain ⟨-, y, listed, spelled⟩ := spelling.blank c (areBlanks c inText)
  rw [spelled] at inSpelling
  rwa [List.mem_singleton.1 inSpelling]

/-- What consists of blanks is spelled by blanks. -/
theorem exists_text_of_blanks (spelling : Spelling document admits spell blanks brace)
    {more : List α} (listed : ∀ x ∈ more, x ∈ blanks) :
    ∃ u, Blanks u ∧ more = u.flatMap spell := by
  induction more with
  | nil => exact ⟨[], by simp [Blanks], rfl⟩
  | cons x more ih =>
      obtain ⟨here, later⟩ := List.forall_mem_cons.1 listed
      obtain ⟨c, blank, spelled⟩ := spelling.ofBlank x here
      obtain ⟨u, areBlanks, rfl⟩ := ih later
      refine ⟨c :: u, List.forall_mem_cons.2 ⟨blank, areBlanks⟩, ?_⟩
      rw [List.flatMap_cons, spelled, List.singleton_append]

/-- Whatever is cut off in front of the brace is malformed. -/
theorem malformed_of_cut (spelling : Spelling document admits spell blanks brace)
    {front behind : Text} {raws : Keyed Octets}
    (parts : splitText (front ++ .ofChar '\x7d' :: behind) = .ok raws)
    (whole : ∀ c ∈ front, admits c) {cut : List α} (isCut : cut <+: front.flatMap spell) :
    ∃ why, split (document cut) = .error (.malformed why) := by
  obtain ⟨rest, parted⟩ := isCut
  refine exists_malformed_of_text fun t isText => ?_
  have isFront : text (document (cut ++ rest)) = .ok front :=
    (spelling.text_eq_ok _ _).2 ⟨parted, whole⟩
  obtain ⟨u, rfl, -⟩ := spelling.text_append isText isFront
  exact exists_malformed_of_prefix parts (List.prefix_append t u)

/-- What splits is malformed with more behind it that is no blank. -/
theorem malformed_of_more (spelling : Spelling document admits spell blanks brace)
    {content more : List α} {raws : Keyed Octets} (parted : split (document content) = .ok raws)
    (solid : ∃ x ∈ more, x ∉ blanks) :
    ∃ why, split (document (content ++ more)) = .error (.malformed why) := by
  obtain ⟨x, inMore, notBlank⟩ := solid
  obtain ⟨t, isText, complete⟩ := split_eq_ok.1 parted
  refine exists_malformed_of_text fun t' isText' => ?_
  obtain ⟨u, rfl, rfl⟩ := spelling.text_append isText isText'
  refine exists_malformed_of_more complete fun areBlanks => ?_
  exact notBlank (spelling.mem_blanks areBlanks x inMore)

/-- With blanks behind it, a document that splits does so as before. -/
theorem split_of_blanks (spelling : Spelling document admits spell blanks brace)
    {content more : List α} {raws : Keyed Octets} (parted : split (document content) = .ok raws)
    (listed : ∀ x ∈ more, x ∈ blanks) : split (document (content ++ more)) = .ok raws := by
  obtain ⟨u, areBlanks, rfl⟩ := spelling.exists_text_of_blanks listed
  obtain ⟨t, isText, complete⟩ := split_eq_ok.1 parted
  obtain ⟨rfl, whole⟩ := (spelling.text_eq_ok _ _).1 isText
  have isText' : text (document (t.flatMap spell ++ u.flatMap spell)) = .ok (t ++ u) := by
    refine (spelling.text_eq_ok _ _).2 ⟨List.flatMap_append.symm, ?_⟩
    exact List.forall_mem_append.2
      ⟨whole, fun c mem => (spelling.blank c (areBlanks c mem)).1⟩
  have complete' := (splitText_append_eq_ok complete).2 ⟨areBlanks, rfl⟩
  exact split_eq_ok.2 ⟨t ++ u, isText', complete'⟩

end Spelling

theorem octets_spelling :
    Spelling .octets (fun c => c.isSurrogate = false) Utf8.encodeChar [0x20, 0x09, 0x0A, 0x0D]
      0x7D where
  text_eq_ok _ _ := text_octets_eq_ok
  apart c d more more' _ _ same := by
    have pieces := congrArg (Utf8.piecesFrom true none) same
    rw [Utf8.piecesFrom_encodeChar (.inl rfl), Utf8.piecesFrom_encodeChar (.inl rfl)] at pieces
    exact (Utf8.Piece.char.inj (List.cons.inj pieces).1).1
  nonempty c := by
    simp only [Utf8.encodeChar]
    repeat' split
    all_goals exact List.cons_ne_nil _ _
  blank c white := by
    rcases blank_cases white with rfl | rfl | rfl | rfl <;>
      exact ⟨by decide, _, by decide, rfl⟩
  ofBlank x listed := by
    simp only [List.mem_cons, List.not_mem_nil, or_false] at listed
    rcases listed with rfl | rfl | rfl | rfl
    · exact ⟨.ofChar ' ', by decide, by decide⟩
    · exact ⟨.ofChar '\t', by decide, by decide⟩
    · exact ⟨.ofChar '\n', by decide, by decide⟩
    · exact ⟨.ofChar '\r', by decide, by decide⟩
  brace_eq := by decide

theorem text_spelling :
    Spelling .text (fun _ => True) (fun c => [c]) [' ', '\t', '\n', '\r'] '\x7d' where
  text_eq_ok content t := by
    rw [text, List.flatMap_singleton', Except.ok.injEq, and_iff_left fun _ _ => trivial]
  apart c d more more' _ _ same := (List.cons.inj same).1
  nonempty c := List.cons_ne_nil _ _
  blank c white := by
    rcases blank_cases white with rfl | rfl | rfl | rfl <;> exact ⟨trivial, _, by decide, rfl⟩
  ofBlank x listed := by
    refine ⟨x, ?_, rfl⟩
    simp only [List.mem_cons, List.not_mem_nil, or_false] at listed
    rcases listed with rfl | rfl | rfl | rfl <;> decide
  brace_eq := rfl

end RawFields

namespace Body

/-! ## Documents -/

/-- A document is refused as no object, by itself and in place of a body, and nothing is
logged. -/
def Refused (d : Document) : Prop :=
  ∃ why, RawFields.split d = .error (.malformed why) ∧
    ∀ preset, decode preset d = ⟨[], .error (.malformed why)⟩

theorem refused_of_malformed {d : Document}
    (malformed : ∃ why, RawFields.split d = .error (.malformed why)) : Refused d := by
  obtain ⟨why, unsplit⟩ := malformed
  refine ⟨why, unsplit, fun preset => ?_⟩
  rw [decode, RawFields.splitDeclared, unsplit]
  rfl

/-- Two documents split alike and are read as bodies alike. -/
def ReadAlike (d d' : Document) : Prop :=
  RawFields.split d = RawFields.split d' ∧ ∀ preset, decode preset d = decode preset d'

/-- A body is read from what the document splits into. -/
theorem readAlike_of_split {d d' : Document} (same : RawFields.split d = RawFields.split d') :
    ReadAlike d d' := by
  refine ⟨same, fun preset => ?_⟩
  rw [decode, decode, RawFields.splitDeclared, RawFields.splitDeclared, same]

/-- An object is complete at a brace and not before: behind it blanks change nothing, and all
else is refused. -/
structure EndsAtBrace {α : Type} (document : List α → Document) (blanks : List α) (brace : α)
    (content front behind : List α) : Prop where
  parted : content = front ++ brace :: behind
  listed : ∀ x ∈ behind, x ∈ blanks
  cutOff : ∀ cut, cut <+: front → Refused (document cut)
  blank : ∀ more, (∀ x ∈ more, x ∈ blanks) →
    ReadAlike (document (content ++ more)) (document content)
  overrun : ∀ more, (∃ x ∈ more, x ∉ blanks) → Refused (document (content ++ more))

section

variable {α : Type} {document : List α → Document} {admits : CodePoint → Prop}
  {spell : CodePoint → List α} {blanks content front behind : List α} {brace : α}

/-- It does not matter which brace was cut off. -/
theorem EndsAtBrace.refused_of_mem
    (ends : EndsAtBrace document blanks brace content front behind) (solid : brace ∉ blanks)
    {cut rest : List α} (parted : content = cut ++ rest) (mem : brace ∈ rest) :
    Refused (document cut) := by
  apply ends.cutOff
  rcases List.append_eq_append_iff.1 (ends.parted.symm.trans parted) with
    ⟨beyond, rfl, later⟩ | ⟨missing, rfl, -⟩
  · cases beyond with
    | nil => exact ⟨[], by rw [List.append_nil, List.append_nil]⟩
    | cons x beyond =>
        obtain ⟨-, rfl⟩ := List.cons.inj later
        exact absurd (ends.listed brace (List.mem_append_right beyond mem)) solid
  · exact List.prefix_append cut missing

theorem endsAtBrace_of_split (spelling : RawFields.Spelling document admits spell blanks brace)
    {raws : Keyed Octets} (accepted : RawFields.split (document content) = .ok raws) :
    ∃ front behind, EndsAtBrace document blanks brace content front behind := by
  obtain ⟨t, isText, parts⟩ := RawFields.split_eq_ok.1 accepted
  obtain ⟨front, behind, rfl, areBlanks⟩ := RawFields.exists_brace parts
  obtain ⟨spelled, whole⟩ := (spelling.text_eq_ok _ _).1 isText
  rw [List.flatMap_append, List.flatMap_cons, spelling.brace_eq] at spelled
  refine ⟨front.flatMap spell, behind.flatMap spell, spelled, spelling.mem_blanks areBlanks,
    ?_, ?_, ?_⟩
  · intro cut isCut
    have wholeFront : ∀ c ∈ front, admits c := fun c mem => whole c (List.mem_append_left _ mem)
    exact refused_of_malformed (spelling.malformed_of_cut parts wholeFront isCut)
  · intro more listed
    exact readAlike_of_split ((spelling.split_of_blanks accepted listed).trans accepted.symm)
  · intro more solid
    exact refused_of_malformed (spelling.malformed_of_more accepted solid)

end

/-- Nothing that splits splits any more, or is read as a body, when it was cut off before its
closing brace, between any two octets or code points, or goes on with anything but blanks. -/
theorem refused_unless_whole :
    (∀ content raws, RawFields.split (.octets content) = .ok raws →
      ∃ front behind, EndsAtBrace .octets [0x20, 0x09, 0x0A, 0x0D] 0x7D content front behind) ∧
    ∀ content raws, RawFields.split (.text content) = .ok raws →
      ∃ front behind,
        EndsAtBrace .text [' ', '\t', '\n', '\r'] '\x7d' content front behind := by
  constructor
  · intro content raws accepted
    exact endsAtBrace_of_split RawFields.octets_spelling accepted
  · intro content raws accepted
    exact endsAtBrace_of_split RawFields.text_spelling accepted

/-- An object with an object in it and a character of three octets. -/
def nested : String := " \x7b\"a\": \x7b\"b\": \"€\"\x7d, \"c\": 10\x7d \n"

def nestedOctets : Octets := Utf8.encode nested

/-- Cut inside of the character, cut where the inner object is complete, and followed by a
second object; and as code points, cut inside of the numeral. -/
theorem refused_unless_whole_nested :
    (∃ raws, RawFields.split (.octets nestedOctets) = .ok raws) ∧
      Refused (.octets (nestedOctets.take 16)) ∧ Refused (.octets (nestedOctets.take 19)) ∧
      Refused (.octets (nestedOctets ++ Utf8.encode "\x7b\x7d")) ∧
      (∃ raws, RawFields.split (.text nested) = .ok raws) ∧
      Refused (.text ((Text.ofString nested).take 25)) := by
  have acceptedOctets : (RawFields.split (.octets nestedOctets)).isOk = true := by decide +kernel
  have acceptedText : (RawFields.split (.text nested)).isOk = true := by decide +kernel
  obtain ⟨raws, parted⟩ := exists_of_isOk acceptedOctets
  obtain ⟨raws', parted'⟩ := exists_of_isOk acceptedText
  obtain ⟨ofOctets, ofText⟩ := refused_unless_whole
  obtain ⟨_, _, ends⟩ := ofOctets _ raws parted
  obtain ⟨_, _, ends'⟩ := ofText _ raws' parted'
  refine ⟨⟨raws, parted⟩, ?_, ?_, ?_, ⟨raws', parted'⟩, ?_⟩
  · exact ends.refused_of_mem (by decide) (List.take_append_drop 16 _).symm (by decide +kernel)
  · exact ends.refused_of_mem (by decide) (List.take_append_drop 19 _).symm (by decide +kernel)
  · exact ends.overrun _ ⟨0x7B, by decide, by decide⟩
  · exact ends'.refused_of_mem (by decide) (List.take_append_drop 25 _).symm (by decide +kernel)

end Body

end BlockWire
