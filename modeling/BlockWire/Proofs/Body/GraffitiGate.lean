/- # Graffiti and fixed bytes in general

The strict reader of graffiti against the codec of 32 octets, over all octets there are.
What the strict reader takes the codec takes too, with the same value
(`ofLength_decode_of_decode`). The codec takes more: blanks around the string, escapes in
it, a mark in front, other encodings. All of that needs more octets than the string has
code points and quotes (`length_of_load_str`), so the number of octets parts the one
spelling from the others (`decode_iff_length`).

What is refused is refused for the first thing wrong (`decode_eq_error`). Counting the octets
that were spelled finds nothing wrong any more, since their digits have been counted
(`length_of_spelled`). -/
import BlockWire.Proofs.Body.Graffiti
import BlockWire.Proofs.Text.Width
import BlockWire.Proofs.Wire.Codecs

namespace BlockWire

set_option autoImplicit false

namespace Json

theorem scanValue_eq_str {depth : Nat} {t s left : Text}
    (read : scanValue depth t = .ok (.str s, left)) :
    ∃ rest, t = .ofChar '"' :: rest ∧ stringBody t 0 rest = .ok (s, left) := by
  have cases_of_nested : ∃ nested, scanWith nested t = .ok (.str s, left) := by
    cases depth with
    | zero => exact ⟨none, read⟩
    | succ depth => exact ⟨some (scanValue depth), read⟩
  obtain ⟨nested, read⟩ := cases_of_nested
  rcases scanWith_cases read with ⟨rest, body, rfl, string, same⟩ | ⟨_, _, _, _, -, -, other⟩ |
    ⟨_, _, _, _, -, -, other⟩ | ⟨_, _, -, -, -, -, atom⟩
  · obtain rfl := Json.str.inj same
    exact ⟨rest, rfl, string⟩
  · cases other
  · cases other
  · rcases scanAtom_value atom with other | ⟨_, other⟩ | ⟨_, -, other | ⟨-, other⟩⟩ <;> cases other

/-- Blanks are what a text has more than it has behind them. -/
theorem length_skipBlanks (t : Text) :
    (skipBlanks t).length ≤ t.length ∧
      ((skipBlanks t).length = t.length → skipBlanks t = t) := by
  have suffix : skipBlanks t <:+ t := List.dropWhile_suffix _
  exact ⟨suffix.length_le, suffix.eq_of_length⟩

/-- A document that is a string has an octet for each code point of it and for both quotes;
where it has no more, these are what its octets are. -/
theorem length_of_load_str {raw : Octets} {s : Text}
    (read : load (.octets raw) = .ok (.str s)) :
    s.length + 2 ≤ raw.length ∧
      (s.length + 2 = raw.length → Graffiti.codes raw = .ofChar '"' :: (s ++ [.ofChar '"'])) := by
  rw [load, bind_eq_ok] at read
  obtain ⟨t, decoded, parsed⟩ := read
  obtain ⟨left, scanned, -⟩ := parse_eq_ok.1 (mapError_eq_ok.1 parsed)
  obtain ⟨rest, opened, inside⟩ := scanValue_eq_str scanned
  obtain ⟨octets, narrow⟩ := Encoding.fitsOctets_of_decode (mapError_eq_ok.1 decoded)
  obtain ⟨solid, bare⟩ := length_skipBlanks t
  obtain ⟨body, plain⟩ := stringBody_length inside
  have whole : (skipBlanks t).length = rest.length + 1 := by rw [opened, List.length_cons]
  constructor
  · omega
  · intro equal
    have behind : left = [] := List.eq_nil_of_length_eq_zero (by omega)
    rw [Graffiti.codes, ← narrow (by omega), ← bare (by omega), opened, plain (by omega), behind]

end Json

namespace Codec

/-- What the codec of fixed bytes takes: a document that is a string of so many digits behind
the mark, however the document is written. -/
theorem ofLength_decode_eq_ok {length : Nat} {d : Document} {entry : Option Value} :
    (ofLength length).decode d = .ok entry ↔
      ∃ digits octets, Json.load d = .ok (.str (Wire.hexMark ++ digits)) ∧
        Hex.Spells digits octets ∧ digits.length = 2 * length ∧ entry = some (.bytes octets) := by
  rw [decode, bind_eq_ok]
  constructor
  · rintro ⟨j, loaded, read⟩
    obtain ⟨v, rfl⟩ := exists_value_of_fromJson rfl read
    have value : Wire.fromJson (.byteVector length) j = .ok v := fromJson_eq_some.1 read
    simp only [Wire.fromJson, Wire.present_eq_ok, map_eq_ok, Wire.exactBytes_iff] at value
    obtain ⟨-, octets, ⟨digits, rfl, spelled, exact⟩, rfl⟩ := value
    exact ⟨digits, octets, loadValue_eq_ok.1 loaded, spelled, exact, rfl⟩
  · rintro ⟨digits, octets, loaded, spelled, exact, rfl⟩
    refine ⟨_, loadValue_eq_ok.2 loaded, fromJson_eq_some.2 ?_⟩
    exact Wire.fromJson_byteVector.2 (.byteVector spelled exact)

end Codec

namespace Graffiti

variable {raw octets : Octets}

theorem writtenSize_eq : writtenSize = 68 := rfl

/-! ## Against the codec -/

theorem length_of_decode (read : decode raw = .ok octets) : raw.length = writtenSize := by
  rw [decode, guard_eq_ok, guard_eq_ok, guard_eq_ok] at read
  obtain ⟨-, -, exact, -⟩ := read
  exact Decidable.not_not.1 exact

theorem exists_decode_iff :
    (∃ octets, decode raw = .ok octets) ↔
      ∃ digits, digits.length = 64 ∧ (∀ c ∈ digits, Hex.isDigit c = true) ∧
        raw = literal digits := by
  constructor
  · rintro ⟨octets, read⟩
    obtain ⟨digits, count, spelled, rfl⟩ := decode_eq_ok.1 read
    exact ⟨digits, count, spelled.isDigit, rfl⟩
  · rintro ⟨digits, count, all, rfl⟩
    obtain ⟨octets, spelled⟩ := Hex.exists_spells_iff.2 ⟨by omega, all⟩
    exact ⟨octets, decode_eq_ok.2 ⟨digits, count, spelled, rfl⟩⟩

theorem ofLength_decode_of_decode (read : decode raw = .ok octets) :
    (Codec.ofLength size).decode (.octets raw) = .ok (some (.bytes octets)) := by
  obtain ⟨digits, count, spelled, rfl⟩ := decode_eq_ok.1 read
  apply Codec.ofLength_decode_eq_ok.2
  exact ⟨digits, octets, load_literal spelled.isDigit, spelled, count, rfl⟩

/-- Of the spellings of a string, the literal one alone has no octet too many. -/
theorem decode_iff_length {entry : Option Value}
    (taken : (Codec.ofLength size).decode (.octets raw) = .ok entry) :
    (∃ octets, decode raw = .ok octets) ↔ raw.length = writtenSize := by
  constructor
  · rintro ⟨octets, read⟩
    exact length_of_decode read
  · intro exact
    obtain ⟨digits, octets, loaded, spelled, count, -⟩ := Codec.ofLength_decode_eq_ok.1 taken
    obtain ⟨-, bare⟩ := Json.length_of_load_str loaded
    have tight : (Wire.hexMark ++ digits).length + 2 = raw.length := by
      rw [List.length_append, count, exact]
      rfl
    have shape : codes raw = "\"0x" ++ digits ++ "\"" := bare tight
    have ascii : Json.Ascii (codes raw) := by
      rw [shape]
      refine List.forall_mem_append.2 ⟨List.forall_mem_append.2 ⟨by decide, ?_⟩, by decide⟩
      exact (Json.graphic_of_isDigit spelled.isDigit).ascii
    refine ⟨octets, decode_eq_ok.2 ⟨digits, count, spelled, ?_⟩⟩
    rw [literal, ← shape, encode_codes ascii]

/-! ## What is refused -/

/-- The octets that are looked at as digits. -/
def inside (raw : Octets) : Octets := (raw.drop opening.length).take (2 * size)

/-- What is made of them. -/
def ofDigits (digits : Octets) : Except GraffitiFault Octets :=
  match Hex.decode (codes digits) with
  | none => .error (.digits (some (Text.quoted (Utf8.decodeLossy digits))))
  | some octets => if octets.length ≠ size then .error .length else .ok octets

theorem decode_eq_checks (raw : Octets) :
    decode raw =
      if !opening.isPrefixOf raw then .error .start
      else if !closing.isSuffixOf raw then .error .ending
      else if raw.length ≠ writtenSize then .error .length
      else ofDigits (inside raw) := rfl

theorem length_inside (exact : raw.length = writtenSize) :
    (codes (inside raw)).length = 2 * size := by
  have sizes : opening.length = 3 ∧ size = 32 := ⟨rfl, rfl⟩
  rw [writtenSize_eq] at exact
  rw [codes, inside, List.length_map, List.length_take, List.length_drop]
  omega

/-- So many digits are so many octets: counting these finds nothing wrong. -/
theorem length_of_spelled {digits : Octets} (count : (codes digits).length = 2 * size)
    (spelled : Hex.decode (codes digits) = some octets) : octets.length = size := by
  have twice := (Hex.decode_eq_some.1 spelled).length
  omega

theorem ofDigits_eq_error {digits : Octets} (count : (codes digits).length = 2 * size)
    {fault : GraffitiFault} :
    ofDigits digits = .error fault ↔
      (codes digits).all Hex.isDigit = false ∧
        fault = .digits (some (Text.quoted (Utf8.decodeLossy digits))) := by
  have even : (codes digits).length % 2 = 0 := by
    rw [count]
    rfl
  rw [ofDigits, ← Hex.decode_eq_none_iff even]
  cases spelled : Hex.decode (codes digits) with
  | none => simp [eq_comm]
  | some octets => simp [length_of_spelled count spelled]

/-- The beginning is looked at first, then the end, then the length, then the digits. -/
theorem decode_eq_error {fault : GraffitiFault} :
    decode raw = .error fault ↔
      (¬ opening <+: raw ∧ fault = .start) ∨
      (opening <+: raw ∧ ¬ closing <:+ raw ∧ fault = .ending) ∨
      (opening <+: raw ∧ closing <:+ raw ∧ raw.length ≠ writtenSize ∧ fault = .length) ∨
      (opening <+: raw ∧ closing <:+ raw ∧ raw.length = writtenSize ∧
        (codes (inside raw)).all Hex.isDigit = false ∧
        fault = .digits (some (Text.quoted (Utf8.decodeLossy (inside raw))))) := by
  have noDigits : ¬ raw.length ≠ writtenSize ∧ ofDigits (inside raw) = .error fault ↔
      raw.length = writtenSize ∧ (codes (inside raw)).all Hex.isDigit = false ∧
        fault = .digits (some (Text.quoted (Utf8.decodeLossy (inside raw)))) := by
    rw [not_not]
    apply and_congr_right
    intro exact
    exact ofDigits_eq_error (length_inside exact)
  rw [decode_eq_checks, guard_eq_error, guard_eq_error, guard_eq_error, noDigits,
    Bool.not_eq_true', ← Bool.not_eq_true, List.isPrefixOf_iff_prefix, Bool.not_eq_true',
    ← Bool.not_eq_true, List.isSuffixOf_iff_suffix]
  simp only [not_not, and_or_left]

/-! ## Both readers together -/

theorem decode_encode (exact : octets.length = size) : decode (encode octets) = .ok octets := by
  rw [encode_eq_literal]
  apply decode_eq_ok.2
  refine ⟨_, ?_, Wire.spells_encode octets, rfl⟩
  rw [Wire.length_hex, exact]

/-- For all octets: which of them the strict reader takes; that the codec of fixed bytes then
reads the same value; that of what this codec takes, the strict reader takes what has 68 octets;
what is refused for which reason, and that the digits of 68 octets always make 32. What is
written for 32 octets is read again. -/
theorem gate_against_fixedBytes (raw : Octets) :
    ((∃ g, decode raw = .ok g) ↔
      ∃ digits, digits.length = 64 ∧ (∀ c ∈ digits, Hex.isDigit c = true) ∧
        raw = Utf8.encode ("\"0x" ++ digits ++ "\"")) ∧
    (∀ g, decode raw = .ok g →
      (Codec.ofLength 32).decode (.octets raw) = .ok (some (.bytes g))) ∧
    (∀ entry, (Codec.ofLength 32).decode (.octets raw) = .ok entry →
      ((∃ g, decode raw = .ok g) ↔ raw.length = 68)) ∧
    (∀ fault, decode raw = .error fault ↔
      (¬ opening <+: raw ∧ fault = .start) ∨
      (opening <+: raw ∧ ¬ closing <:+ raw ∧ fault = .ending) ∨
      (opening <+: raw ∧ closing <:+ raw ∧ raw.length ≠ 68 ∧ fault = .length) ∨
      (opening <+: raw ∧ closing <:+ raw ∧ raw.length = 68 ∧
        (codes (inside raw)).all Hex.isDigit = false ∧
        fault = .digits (some (Text.quoted (Utf8.decodeLossy (inside raw)))))) ∧
    (raw.length = 68 → ∀ octets, Hex.decode (codes (inside raw)) = some octets →
      octets.length = 32) ∧
    ∀ g : Octets, g.length = 32 → decode (encode g) = .ok g := by
  refine ⟨exists_decode_iff, ?_, ?_, ?_, ?_, ?_⟩
  · intro g read
    exact ofLength_decode_of_decode read
  · intro entry taken
    exact decode_iff_length taken
  · intro fault
    exact decode_eq_error
  · intro exact octets spelled
    exact length_of_spelled (length_inside exact) spelled
  · intro g exact
    exact decode_encode exact

set_option maxRecDepth 10000 in
/-- A blank in front: the codec reads the string behind it, the strict reader takes nothing. -/
theorem gate_blank :
    (Codec.ofLength 32).decode (.octets (0x20 :: literal (List.replicate 64 (.ofChar '0')))) =
        .ok (some (.bytes (List.replicate 32 0))) ∧
      ∀ g, decode (0x20 :: literal (List.replicate 64 (.ofChar '0'))) ≠ .ok g := by
  have taken : (Codec.ofLength 32).decode
      (.octets (0x20 :: literal (List.replicate 64 (.ofChar '0')))) =
        .ok (some (.bytes (List.replicate 32 0))) := by rfl
  refine ⟨taken, fun g read => ?_⟩
  obtain ⟨-, -, exact, -⟩ := gate_against_fixedBytes
    (0x20 :: literal (List.replicate 64 (.ofChar '0')))
  exact absurd ((exact _ taken).1 ⟨g, read⟩) (by decide)

end Graffiti

end BlockWire
