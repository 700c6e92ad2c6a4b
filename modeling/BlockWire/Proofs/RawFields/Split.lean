/- # Splitting an object and reading it

A raw field `Holds` the value that its octets are read as. An object that can be split can
be read if its values nest within the levels there are (`parse_of_splitText`), and then each
raw field holds the value of the member with its key.

The two scans differ in what they keep of a value alone, and in that a value with a surrogate
has no octets to be kept, so reading follows splitting. A raw field has one level more than a
member, since no scan of the object is around it. -/
import BlockWire.RawFields
import BlockWire.Proofs.Json.Loading
import BlockWire.Proofs.Text.Utf8

namespace BlockWire

set_option autoImplicit false

namespace Json

/-- No word and no numeral is an object. -/
theorem scanAtom_ne_obj {t left : Text} {members : Keyed Json} :
    scanAtom t ≠ .ok (.obj members, left) := by
  intro read
  rcases scanAtom_value read with same | ⟨_, same⟩ | ⟨_, -, same | ⟨-, same⟩⟩ <;> cases same

theorem scanValue_eq_obj {depth : Nat} {t left : Text} {members : Keyed Json} :
    scanValue (depth + 1) t = .ok (.obj members, left) ↔
      ∃ rest pairs, t = .ofChar '\x7b' :: rest ∧
        items (scanMember (scanValue depth)) (.ofChar '\x7d') comma rest = .ok (pairs, left) ∧
        members = Keyed.ofPairs pairs := by
  constructor
  · intro read
    rcases scanWith_cases read with ⟨_, _, -, -, other⟩ |
      ⟨value, here, rest, pairs, rfl, inside, object⟩ | ⟨_, _, _, _, -, -, other⟩ |
      ⟨_, _, -, -, -, -, atom⟩
    · cases other
    · obtain rfl := Option.some.inj here
      exact ⟨rest, pairs, rfl, inside, Json.obj.inj object⟩
    · cases other
    · exact absurd atom scanAtom_ne_obj
  · rintro ⟨rest, pairs, rfl, inside, rfl⟩
    change scanWith (some (scanValue depth)) _ = _
    rw [scanWith_brace, inside]
    rfl

end Json

/-- A document that holds no surrogate, as none does that comes as octets. -/
def Document.IsPlain : Document → Prop
  | .octets _ => True
  | .text content => ∀ c ∈ content, c.isSurrogate = false

theorem Document.isPlain_ofString (s : String) : (Document.text (Text.ofString s)).IsPlain := by
  intro c mem
  obtain ⟨character, -, rfl⟩ := List.mem_map.1 mem
  exact CodePoint.isSurrogate_ofChar character

namespace RawFields

open Json (Scan Takes Local Apart Token Follows IsMember NestsWithin skipBlanks scanValue depthLimit
  Ends)

/-- The octets of a text that is read as a value wherever it stands. -/
def Holds (raw : Octets) (v : Json) : Prop :=
  ∃ s, raw = Utf8.encode s ∧ Takes (scanValue depthLimit) s v

theorem Holds.load {raw : Octets} {v : Json} (holds : Holds raw v) :
    Json.load (.octets raw) = .ok v := by
  obtain ⟨s, rfl, takes⟩ := holds
  exact Json.load_of_takes takes

/-! ## Raw values -/

theorem rawValue_eq_encodeStrict {s left : Text} {v : Json}
    (scanned : scanValue depthLimit (s ++ left) = .ok (v, left)) :
    rawValue (s ++ left) =
      (Encoding.encodeStrict s).mapError .unencodable >>= fun raw => .ok (raw, left) := by
  rw [rawValue, scanned]
  simp only
  rw [List.length_append, Nat.add_sub_cancel, List.take_left]

theorem rawValue_of_scanned {s left : Text} {v : Json}
    (scanned : scanValue depthLimit (s ++ left) = .ok (v, left))
    (plain : ∀ c ∈ s, c.isSurrogate = false) :
    rawValue (s ++ left) = .ok (Utf8.encode s, left) := by
  rw [rawValue_eq_encodeStrict scanned, Encoding.encodeStrict_of_plain plain]
  rfl

/-- A raw value is the octets of what scanning it takes. -/
theorem rawValue_eq_ok {t left : Text} {raw : Octets} :
    rawValue t = .ok (raw, left) ↔
      ∃ s v, t = s ++ left ∧ raw = Utf8.encode s ∧ (∀ c ∈ s, c.isSurrogate = false) ∧ Token s ∧
        Takes (scanValue depthLimit) s v ∧ scanValue depthLimit t = .ok (v, left) := by
  constructor
  · intro read
    cases scanned : scanValue depthLimit t with
    | error fault =>
        rw [rawValue, scanned] at read
        cases fault <;> simp at read
    | ok found =>
        obtain ⟨v, behind⟩ := found
        obtain ⟨s, rfl, token, takes⟩ := Json.scanValue_local depthLimit scanned
        rw [rawValue_eq_encodeStrict scanned, bind_eq_ok] at read
        obtain ⟨octets, written, same⟩ := read
        obtain ⟨rfl, plain⟩ := Encoding.encodeStrict_eq_ok.1 (mapError_eq_ok.1 written)
        obtain ⟨rfl, rfl⟩ := Prod.mk.inj (Except.ok.inj same)
        exact ⟨s, v, rfl, rfl, plain, token, takes, rfl⟩
  · rintro ⟨s, v, rfl, rfl, plain, -, -, scanned⟩
    exact rawValue_of_scanned scanned plain

theorem rawValue_of_takes {s : Text} {v : Json} (takes : Takes (scanValue depthLimit) s v)
    (plain : ∀ c ∈ s, c.isSurrogate = false) : Takes rawValue s (Utf8.encode s) := by
  intro rest ends
  exact rawValue_of_scanned (takes rest ends) plain

theorem rawValue_local : Local rawValue := by
  intro t left raw read
  obtain ⟨s, v, rfl, rfl, plain, token, takes, -⟩ := rawValue_eq_ok.1 read
  exact ⟨s, rfl, token, rawValue_of_takes takes plain⟩

theorem rawValue_follows : Follows rawValue (scanValue depthLimit) Holds := by
  intro t left raw read
  obtain ⟨s, v, -, rfl, -, -, takes, scanned⟩ := rawValue_eq_ok.1 read
  exact ⟨v, scanned, s, rfl, takes⟩

/-! ## Raw members -/

theorem rawMember_eq_ok {t left : Text} {member : Text × Octets} :
    rawMember t = .ok (member, left) ↔ IsMember rawValue t member left := by
  constructor
  · intro read
    cases t with
    | nil => simp [rawMember] at read
    | cons c u =>
        rw [rawMember] at read
        split at read
        next quote =>
          subst quote
          obtain ⟨⟨key, named⟩, string, read⟩ := bind_eq_ok.1 read
          rw [mapError_eq_ok] at string
          simp only at read
          split at read
          · simp at read
          next d behind colon =>
            split at read
            next isColon =>
              subst isColon
              obtain ⟨⟨raw, left'⟩, inside, same⟩ := bind_eq_ok.1 read
              obtain ⟨rfl, rfl⟩ := Prod.mk.inj (Except.ok.inj same)
              exact ⟨u, named, behind, rfl, string, colon, inside⟩
            · simp at read
        · simp at read
  · rintro ⟨u, named, behind, rfl, string, colon, inside⟩
    simp only [rawMember, if_true, string, Except.mapError, bind, Except.bind, colon, inside]

theorem rawMember_local : Local rawMember := by
  intro t left member read
  obtain ⟨s, parted, token, same⟩ := (rawMember_eq_ok.1 read).locality rawValue_local
  exact ⟨s, parted, token, fun rest ends => rawMember_eq_ok.2 (same rest ends)⟩

theorem rawMember_apart : Apart rawMember (.ofChar '\x7d') := by
  intro rest read member
  simp [rawMember, show CodePoint.ofChar '\x7d' ≠ .ofChar '"' by decide] at member

/-- The same key, and a raw field that holds the member's value. -/
def HoldsMember (field : Text × Octets) (member : Text × Json) : Prop :=
  field.1 = member.1 ∧ Holds field.2 member.2

theorem rawMember_follows :
    Follows rawMember (Json.scanMember (scanValue depthLimit)) HoldsMember := by
  intro t left field read
  obtain ⟨member, found, same, holds⟩ := (rawMember_eq_ok.1 read).follow rawValue_follows
  exact ⟨member, Json.scanMember_eq_ok.2 found, same, holds⟩

/-! ## The whole object -/

theorem splitText_eq_ok {t : Text} {raws : Keyed Octets} :
    splitText t = .ok raws ↔
      ∃ rest pairs left, skipBlanks t = .ofChar '\x7b' :: rest ∧
        Json.items rawMember (.ofChar '\x7d') unparted rest = .ok (pairs, left) ∧
        skipBlanks left = [] ∧ raws = Keyed.ofPairs pairs := by
  unfold splitText
  rw [bind_eq_ok]
  constructor
  · rintro ⟨⟨pairs, left⟩, object, ends⟩
    simp only at ends
    split at ends
    next nothing =>
      obtain rfl := Except.ok.inj ends
      cases stands : skipBlanks t with
      | nil => simp [stands, scanObject] at object
      | cons c rest =>
          rw [stands, scanObject] at object
          split at object
          next brace =>
            subst brace
            exact ⟨rest, pairs, left, rfl, object, nothing, rfl⟩
          · simp at object
    · simp at ends
  · rintro ⟨rest, pairs, left, stands, inside, nothing, rfl⟩
    refine ⟨(pairs, left), ?_, ?_⟩
    · rw [stands, scanObject, if_pos rfl, inside]
    · simp only [nothing]

/-- The scan of the object has one level more than that of a raw field. -/
theorem scanned_of_splitText {t : Text} {raws : Keyed Octets} (split : splitText t = .ok raws) :
    ∃ members left, scanValue (depthLimit + 1) (skipBlanks t) = .ok (.obj members, left) ∧
      skipBlanks left = [] ∧ Keyed.Related Holds raws members := by
  obtain ⟨rest, fields, left, stands, inside, nothing, rfl⟩ := splitText_eq_ok.1 split
  obtain ⟨pairs, read, related⟩ := Json.items_follow Json.closer_brace rawMember_local
    rawMember_apart (Json.scanMember_local (Json.scanValue_local _)) (Json.scanMember_apart _)
    rawMember_follows Json.comma inside
  have value := Json.scanValue_eq_obj.2 ⟨rest, pairs, stands, read, rfl⟩
  exact ⟨Keyed.ofPairs pairs, left, value, nothing, Keyed.Related.ofPairs related⟩

/-- What an object is split into holds the members that it is read with. -/
theorem related_of_parse {t : Text} {raws : Keyed Octets} {members : Keyed Json}
    (split : splitText t = .ok raws) (read : Json.parse t = .ok (.obj members)) :
    Keyed.Related Holds raws members := by
  obtain ⟨members', left, value, -, related⟩ := scanned_of_splitText split
  obtain ⟨left', value', -⟩ := Json.parse_eq_ok.1 read
  rw [Json.scanValue_mono (Nat.le_succ _) value', Except.ok.injEq, Prod.mk.injEq] at value
  obtain ⟨same, -⟩ := value
  obtain rfl := Json.obj.inj same
  exact related

/-- Each raw field of an object that can be split holds a value, however deep that nests. -/
theorem exists_members_of_splitText {t : Text} {raws : Keyed Octets}
    (split : splitText t = .ok raws) : ∃ members, Keyed.Related Holds raws members := by
  obtain ⟨members, -, -, -, related⟩ := scanned_of_splitText split
  exact ⟨members, related⟩

/-- An object that can be split can be read, as long as its values do not nest deeper
than reading can follow. -/
theorem parse_of_splitText {t : Text} {raws : Keyed Octets} {depth : Nat}
    (le : depth ≤ depthLimit) (nests : NestsWithin depth t) (split : splitText t = .ok raws) :
    ∃ members, Json.parse t = .ok (.obj members) ∧ Keyed.Related Holds raws members := by
  obtain ⟨members, left, value, nothing, related⟩ := scanned_of_splitText split
  have within : scanValue depthLimit (skipBlanks t) ≠ .error .tooDeep := nests.mono le
  rw [Json.scanValue_eq_of_le (Nat.le_succ depthLimit) within] at value
  exact ⟨members, Json.parse_eq_ok.2 ⟨left, value, nothing⟩, related⟩

theorem text_octets_eq_ok {content : Octets} {t : Text} :
    text (.octets content) = .ok t ↔
      content = Utf8.encode t ∧ ∀ c ∈ t, c.isSurrogate = false := by
  rw [text, Encoding.decodeStrict, mapError_eq_ok, Utf8.decode_eq_ok]

/-- Only a document that comes as text can hold surrogates. -/
theorem plain_of_text {d : Document} {t : Text} (whole : d.IsPlain) (isText : text d = .ok t) :
    ∀ c ∈ t, c.isSurrogate = false := by
  cases d with
  | octets content => exact (text_octets_eq_ok.1 isText).2
  | text content =>
      obtain rfl := Except.ok.inj isText
      exact whole

theorem split_eq_ok {d : Document} {raws : Keyed Octets} :
    split d = .ok raws ↔ ∃ t, text d = .ok t ∧ splitText t = .ok raws := by
  rw [split, bind_eq_ok]
  simp only [mapError_eq_ok]

theorem splitDeclared_eq_ok {declared : List Text} {d : Document} {raws : Keyed Octets} :
    splitDeclared declared d = .ok raws ↔
      split d = .ok raws ∧ ∀ key ∈ Keyed.keys raws, key ∈ declared := by
  rw [splitDeclared, bind_eq_ok]
  constructor
  · rintro ⟨fields, found, read⟩
    rw [mapError_eq_ok] at found
    split at read
    next known =>
      obtain rfl := Except.ok.inj read
      exact ⟨found, Keyed.firstUnknown?_eq_none.1 known⟩
    · simp at read
  · rintro ⟨found, known⟩
    refine ⟨raws, mapError_eq_ok.2 found, ?_⟩
    simp only [Keyed.firstUnknown?_eq_none.2 known]

theorem splitDeclared_eq_unsplit {declared : List Text} {d : Document}
    {why : Unsplit Json.Place} :
    splitDeclared declared d = .error (.unsplit why) ↔ split d = .error why := by
  rw [splitDeclared, bind_eq_error]
  constructor
  · rintro (failed | ⟨fields, -, unknown⟩)
    · obtain ⟨cause, unsplit, same⟩ := mapError_eq_error.1 failed
      obtain rfl := Fault.unsplit.inj same
      exact unsplit
    · split at unknown <;> cases unknown
  · intro failed
    exact .inl (mapError_eq_error.2 ⟨why, failed, rfl⟩)

end RawFields

end BlockWire
