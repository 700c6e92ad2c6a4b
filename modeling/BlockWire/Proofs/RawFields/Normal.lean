/- # The joined form of an object

Joining writes an object in one way: no blanks between its members, keys in ASCII, and the
raw values as they are. Splitting gives the fields back just as they were joined, if they are
`Joinable`: distinct keys, none of which has a high surrogate directly before a low one, and
raw values that are each the octets of one value (`split_of_join`).

Of what is split, no key is kept twice and each raw value was scanned, so only its keys are
left to ask about. In a document without surrogates escapes that spell a pair have become one
code point, and what it is split into is joinable. A text that holds surrogates itself can have
a key with the two halves of a pair side by side; joining writes these as the pair, which is
another key, and perhaps one that is there already (`split_join_halves`). Everything else comes
back as it was, and the joined form of an object is its own joined form. -/
import BlockWire.Proofs.Json.Surrogates
import BlockWire.Proofs.RawFields.Agreement

namespace BlockWire.RawFields

set_option autoImplicit false

open Json (Unpaired)

/-- The octets of the text of one value, with nothing in front of it or behind it. -/
def IsValue (raw : Octets) : Prop := ∃ s, Utf8.decode raw = .ok s ∧ ValueText s

theorem isValue_encode {s : Text} (plain : ∀ c ∈ s, c.isSurrogate = false)
    (value : ValueText s) : IsValue (Utf8.encode s) := ⟨s, Utf8.decode_encode plain, value⟩

theorem IsValue.whole {raw : Octets} (value : IsValue raw) : Whole raw := by
  obtain ⟨s, strict, inside⟩ := value
  obtain ⟨rfl, plain⟩ := Utf8.decode_eq_ok.1 strict
  obtain ⟨v, -, takes⟩ := inside.takes
  exact ⟨s, v, rfl, plain, takes⟩

/-- Fields that an object can have. -/
structure Joinable (fields : List (Text × Octets)) : Prop where
  distinct : (Keyed.keys fields).Nodup
  unpaired : ∀ key ∈ Keyed.keys fields, Unpaired key
  values : ∀ field ∈ fields, IsValue field.2

theorem Joinable.split_join {fields : List (Text × Octets)} (joinable : Joinable fields) :
    split (.octets (join fields)) = .ok fields := by
  apply RawFields.split_join joinable.distinct joinable.unpaired
  intro field mem
  exact (joinable.values field mem).whole

/-! ## What is split -/

theorem HeadText.unpaired {head key : Text} (headed : HeadText head key)
    (plain : ∀ c ∈ head, c.isSurrogate = false) : Unpaired key := by
  cases headed with
  | @mk before name beforeColon behindColon _ _ spelled _ _ =>
      refine Json.unpaired_of_scanString (fun c mem => plain c ?_) spelled
      simp only [List.mem_append, List.mem_cons] at mem ⊢
      rcases mem with rfl | inName
      · exact .inr (.inl rfl)
      · exact .inr (.inr (.inl inName))

theorem FieldText.unpaired {t : Text} {field : Text × Text} (shaped : FieldText t field)
    (plain : ∀ c ∈ t, c.isSurrogate = false) : Unpaired field.1 := by
  cases shaped with
  | mk named _ _ => exact named.unpaired fun c mem => plain c (List.mem_append_left _ mem)

/-- No escapes are left unjoined in the keys of a document without surrogates. -/
theorem unpaired_of_split {d : Document} {raws : Keyed Octets} (whole : d.IsPlain)
    (parted : split d = .ok raws) : ∀ key ∈ Keyed.keys raws, Unpaired key := by
  obtain ⟨t, isText, parts⟩ := split_eq_ok.1 parted
  obtain ⟨fields, shaped, -, rfl⟩ := splitText_eq_ok_iff.1 parts
  have plain := plain_of_text whole isText
  rw [Keyed.keys, List.forall_mem_map]
  intro raw mem
  obtain ⟨field, stands, rfl⟩ := List.mem_map.1 (Keyed.mem_of_mem_ofPairs mem)
  obtain ⟨s, part, shapedField⟩ := shaped.parts field stands
  exact shapedField.unpaired fun c inPart => plain c (part.subset inPart)

/-- What a document is split into are fields that an object can have, if its keys are. -/
theorem joinable_of_split {d : Document} {raws : Keyed Octets} (parted : split d = .ok raws)
    (unpaired : ∀ key ∈ Keyed.keys raws, Unpaired key) : Joinable raws := by
  obtain ⟨t, isText, parts⟩ := split_eq_ok.1 parted
  obtain ⟨fields, shaped, plain, rfl⟩ := splitText_eq_ok_iff.1 parts
  refine ⟨Keyed.nodup_keys_ofPairs _, unpaired, fun raw mem => ?_⟩
  obtain ⟨field, stands, rfl⟩ := List.mem_map.1 (Keyed.mem_of_mem_ofPairs mem)
  exact isValue_encode (plain field stands) (shaped.slice field stands).2

/-- Splitting what was joined gives it back just where it is joinable: the joined form is
octets, and what octets are split into always is. -/
theorem split_join_iff {d : Document} {raws : Keyed Octets} (parted : split d = .ok raws) :
    split (.octets (join raws)) = .ok raws ↔ ∀ key ∈ Keyed.keys raws, Unpaired key := by
  constructor
  · exact unpaired_of_split trivial
  · exact fun unpaired => (joinable_of_split parted unpaired).split_join

/-! ## The joined form -/

/-- A document that can be split, with its fields joined. -/
def normalForm (d : Document) : Except (Unsplit Json.Place) Octets := (split d).map join

theorem normalForm_eq_ok {d : Document} {out : Octets} :
    normalForm d = .ok out ↔ ∃ raws, split d = .ok raws ∧ join raws = out := map_eq_ok

/-- Fields that an object can have are split as they were joined, in their order. What a
document is split into comes back so exactly if no key in it has a high surrogate directly
before a low one, and then the joined form is its own. None has in octets, or in a text that
holds no surrogate. -/
theorem split_of_join :
    (∀ fields, Joinable fields → split (.octets (join fields)) = .ok fields) ∧
    (∀ d raws, split d = .ok raws →
      (split (.octets (join raws)) = .ok raws ↔ ∀ key ∈ Keyed.keys raws, Unpaired key) ∧
      ((∀ key ∈ Keyed.keys raws, Unpaired key) → Joinable raws ∧
        normalForm d = .ok (join raws) ∧
        normalForm (.octets (join raws)) = .ok (join raws))) ∧
    ∀ d, d.IsPlain →
      (∀ raws, split d = .ok raws →
        Joinable raws ∧ split (.octets (join raws)) = .ok raws) ∧
      ∀ out, normalForm d = .ok out → normalForm (.octets out) = .ok out := by
  refine ⟨fun fields joinable => joinable.split_join, fun d raws parted => ?_, fun d plain => ?_⟩
  · refine ⟨split_join_iff parted, fun unpaired => ?_⟩
    have again := (split_join_iff parted).2 unpaired
    exact ⟨joinable_of_split parted unpaired, normalForm_eq_ok.2 ⟨raws, parted, rfl⟩,
      normalForm_eq_ok.2 ⟨raws, again, rfl⟩⟩
  · have again : ∀ raws, split d = .ok raws →
        Joinable raws ∧ split (.octets (join raws)) = .ok raws := by
      intro raws parted
      have joinable := joinable_of_split parted (unpaired_of_split plain parted)
      exact ⟨joinable, joinable.split_join⟩
    refine ⟨again, fun out normal => ?_⟩
    obtain ⟨raws, parted, rfl⟩ := normalForm_eq_ok.1 normal
    exact normalForm_eq_ok.2 ⟨raws, (again raws parted).2, rfl⟩

/-- Two keys: the halves of a pair, of which only the second is escaped, and the pair. -/
def halves : Text :=
  Text.ofString "\x7b\"" ++ ⟨0xD83D, by decide⟩ ::
    Text.ofString "\\ude00\":1,\"\\ud83d\\ude00\":2\x7d"

/-- Joining writes both keys alike, so one of them is lost when the joined form is split, and
the joined form is not its own. -/
theorem split_join_halves :
    ∃ raws, split (.text halves) = .ok raws ∧ raws.length = 2 ∧
      join raws = Utf8.encode "\x7b\"\\ud83d\\ude00\":1,\"\\ud83d\\ude00\":2\x7d" ∧
      split (.octets (join raws)) = .ok [("😀", Utf8.encode "2")] ∧
      normalForm (.text halves) = .ok (join raws) ∧
      normalForm (.octets (join raws)) ≠ .ok (join raws) := by
  have first : split (.text halves) =
      .ok [([⟨0xD83D, by decide⟩, ⟨0xDE00, by decide⟩], Utf8.encode "1"),
        ("😀", Utf8.encode "2")] := by decide +kernel
  refine ⟨_, first, rfl, by decide +kernel, by decide +kernel, by decide +kernel, ?_⟩
  decide +kernel

/-- A key with much to escape and one half of a surrogate pair, and values with blanks inside
and beyond ASCII. -/
def awkwardFields : List (Text × Octets) :=
  [(Text.ofString "\"\\\n€𐍈" ++ [⟨0xD834, by decide⟩],
      Utf8.encode "\x7b\"c\" : [1 , \"é\"] \x7d"),
    ("", Utf8.encode "-0.5e1")]

theorem split_of_join_awkwardFields :
    Joinable awkwardFields ∧ split (.octets (join awkwardFields)) = .ok awkwardFields ∧
      ∃ raws out, split (.text repeatedKey) = .ok raws ∧
        (∀ key ∈ Keyed.keys raws, Unpaired key) ∧
        split (.octets (join raws)) = .ok raws ∧
        normalForm (.text repeatedKey) = .ok out ∧ normalForm (.octets out) = .ok out := by
  have joinable : Joinable awkwardFields := by
    constructor
    · decide +kernel
    · decide +kernel
    · intro field mem
      simp only [awkwardFields, List.mem_cons, List.not_mem_nil, or_false] at mem
      rcases mem with rfl | rfl
      · exact isValue_encode (by decide +kernel) (by decide +kernel)
      · exact isValue_encode (by decide +kernel) (by decide +kernel)
  have accepted : (split (.text repeatedKey)).isOk = true := by decide +kernel
  obtain ⟨raws, parted⟩ := exists_of_isOk accepted
  obtain ⟨joined, exact, plain⟩ := split_of_join
  obtain ⟨again, -⟩ := plain _ (Document.isPlain_ofString repeatedKey)
  obtain ⟨whole, back⟩ := again raws parted
  obtain ⟨-, stable⟩ := exact _ raws parted
  obtain ⟨-, first, second⟩ := stable whole.unpaired
  exact ⟨joinable, joined _ joinable, raws, join raws, parted, whole.unpaired, back, first,
    second⟩

end BlockWire.RawFields
