/- # What strict UTF-8 reading accepts

Strict reading accepts exactly what is written for a text without surrogates
(`decode_eq_ok`), so no code point has a second spelling and no text that is read holds
a surrogate.

Reading without a fault goes one way at each octet. `start_of_collect` says what the
first octet of a character can be, `collect_more` and `collect_last` what each octet
behind it is; for one, two, three and four octets these come to the one code point
that is written so.

Strict writing has octets for exactly such texts too (`encodeStrict_eq_ok`). -/
import BlockWire.Text.Encoding
import Mathlib.Data.List.TakeWhile

namespace BlockWire

set_option autoImplicit false

namespace Utf8

variable {surrogates : Bool} {position : Nat} {octets : Octets} {t : Text}

/-! ## One octet -/

/-- An open character that is refused leaves a fault behind. -/
theorem collect_refuse_ne_ok (o : Open) (problem : Problem) (later : List Piece) :
    collect position (o.refuse problem ++ later) ≠ .ok t := by
  unfold Open.refuse
  split <;> simp [collect]

theorem collect_char_eq_ok {c : CodePoint} {width : Nat} {later : List Piece} :
    collect position (.char c width :: later) = .ok t ↔
      ∃ rest, collect (position + width) later = .ok rest ∧ t = c :: rest := by
  rw [collect]
  cases collect (position + width) later <;> simp [Except.map, eq_comm]

/-- An open character goes on with an octet within its bounds. -/
theorem within_of_collect {low high : Nat} {later : List (Nat × Nat)} {value width : Nat}
    (read : collect position (piecesFrom surrogates (some ⟨(low, high) :: later, value, width⟩)
      octets) = .ok t) :
    ∃ b rest, octets = b :: rest ∧ low ≤ b.toNat ∧ b.toNat ≤ high := by
  cases octets with
  | nil =>
      rw [piecesFrom, ← List.append_nil (Open.refuse _ _)] at read
      exact absurd read (collect_refuse_ne_ok _ _ _)
  | cons b rest =>
      by_cases within : low ≤ b.toNat ∧ b.toNat ≤ high
      · exact ⟨b, rest, rfl, within⟩
      · simp only [piecesFrom, feed, Open.push, if_neg within, List.append_assoc] at read
        exact absurd read (collect_refuse_ne_ok _ _ _)

/-- An octet before the last adds its six bits. -/
theorem collect_more {low high : Nat} {next : Nat × Nat} {later : List (Nat × Nat)}
    {value width : Nat}
    (read : collect position (piecesFrom surrogates
      (some ⟨(low, high) :: next :: later, value, width⟩) octets) = .ok t) :
    ∃ b rest, octets = b :: rest ∧ low ≤ b.toNat ∧ b.toNat ≤ high ∧
      collect position (piecesFrom surrogates
        (some ⟨next :: later, value * 0x40 + (b.toNat - 0x80), width + 1⟩) rest) = .ok t := by
  obtain ⟨b, rest, rfl, above, below⟩ := within_of_collect read
  refine ⟨b, rest, rfl, above, below, ?_⟩
  simpa only [piecesFrom, feed, Open.push, if_pos (And.intro above below), List.isEmpty_cons,
    Bool.false_eq_true, if_false, List.nil_append] using read

/-- The last octet closes the character. -/
theorem collect_last {low high value width : Nat}
    (read : collect position (piecesFrom surrogates (some ⟨[(low, high)], value, width⟩)
      octets) = .ok t) :
    ∃ b rest more, octets = b :: rest ∧ low ≤ b.toNat ∧ b.toNat ≤ high ∧
      t = .ofNat (value * 0x40 + (b.toNat - 0x80)) :: more ∧
      collect (position + (width + 1)) (piecesFrom surrogates none rest) = .ok more := by
  obtain ⟨b, rest, rfl, above, below⟩ := within_of_collect read
  simp only [piecesFrom, feed, Open.push, if_pos (And.intro above below), List.isEmpty_nil,
    if_true, List.cons_append, List.nil_append] at read
  obtain ⟨more, later, rfl⟩ := collect_char_eq_ok.1 read
  exact ⟨b, rest, more, rfl, above, below, rfl, later⟩

/-! ## One character -/

/-- The ways in which a character can begin: whole, or open with one, two or three
octets still to come. -/
theorem start_of_collect {b : UInt8} {rest : Octets}
    (read : collect position (piecesFrom surrogates none (b :: rest)) = .ok t) :
    (b.toNat < 0x80 ∧ ∃ more, t = .ofNat b.toNat :: more ∧
        collect (position + 1) (piecesFrom surrogates none rest) = .ok more) ∨
      (0xC2 ≤ b.toNat ∧ b.toNat < 0xE0 ∧ collect position (piecesFrom surrogates
        (some ⟨[tail], b.toNat - 0xC0, 1⟩) rest) = .ok t) ∨
      (0xE0 ≤ b.toNat ∧ b.toNat < 0xF0 ∧ collect position (piecesFrom surrogates
        (some ⟨[secondOfThree surrogates b.toNat, tail], b.toNat - 0xE0, 1⟩) rest) = .ok t) ∨
      (0xF0 ≤ b.toNat ∧ b.toNat < 0xF5 ∧ collect position (piecesFrom surrogates
        (some ⟨[secondOfFour b.toNat, tail, tail], b.toNat - 0xF0, 1⟩) rest) = .ok t) := by
  simp only [piecesFrom, feed, start] at read
  split at read
  next ascii =>
    obtain ⟨more, later, rfl⟩ := collect_char_eq_ok.1 read
    exact .inl ⟨ascii, more, rfl, later⟩
  split at read
  · simp [collect] at read
  split at read
  next two => exact .inr (.inl ⟨by omega, two, read⟩)
  split at read
  next three => exact .inr (.inr (.inl ⟨by omega, three, read⟩))
  split at read
  next four => exact .inr (.inr (.inr ⟨by omega, four, read⟩))
  · simp [collect] at read

theorem ofNat_eq {n : Nat} {b : UInt8} (same : n = b.toNat) : UInt8.ofNat n = b := by
  rw [same, UInt8.ofNat_toNat]

/-- The second octet of three is one of those behind the first of a longer character; its
tighter bounds keep out overlong forms and surrogates. -/
theorem bounds_secondOfThree {first second : Nat}
    (above : (secondOfThree surrogates first).1 ≤ second)
    (below : second ≤ (secondOfThree surrogates first).2) :
    0x80 ≤ second ∧ second ≤ 0xBF ∧ (first = 0xE0 → 0xA0 ≤ second) ∧
      (surrogates = false → first = 0xED → second ≤ 0x9F) := by
  unfold secondOfThree tail at above below
  by_cases overlong : first = 0xE0
  · simp only [if_pos overlong] at above below
    omega
  by_cases surrogate : first = 0xED
  · simp only [if_neg overlong, if_pos surrogate] at above below
    cases surrogates <;> simp at below ⊢ <;> omega
  · simp only [if_neg overlong, if_neg surrogate] at above below
    omega

/-- The tighter bounds behind the first of four octets keep out overlong forms and what is
past the last code point. -/
theorem bounds_secondOfFour {first second : Nat} (above : (secondOfFour first).1 ≤ second)
    (below : second ≤ (secondOfFour first).2) :
    0x80 ≤ second ∧ second ≤ 0xBF ∧ (first = 0xF0 → 0x90 ≤ second) ∧
      (first = 0xF4 → second ≤ 0x8F) := by
  unfold secondOfFour tail at above below
  by_cases overlong : first = 0xF0
  · simp only [if_pos overlong] at above below
    omega
  by_cases last : first = 0xF4
  · simp only [if_neg overlong, if_pos last] at above below
    omega
  · simp only [if_neg overlong, if_neg last] at above below
    omega

/-- What two octets are read as is written as these two, and is no surrogate. -/
theorem written_two {a b : UInt8} (least : 0xC2 ≤ a.toNat) (most : a.toNat < 0xE0)
    (above : 0x80 ≤ b.toNat) (below : b.toNat ≤ 0xBF) {c : CodePoint}
    (read : c = .ofNat ((a.toNat - 0xC0) * 0x40 + (b.toNat - 0x80))) :
    encodeChar c = [a, b] ∧ c.isSurrogate = false := by
  have value : c.val = (a.toNat - 0xC0) * 0x40 + (b.toNat - 0x80) := by
    rw [read, CodePoint.val_ofNat (by omega)]
  constructor
  · simp only [encodeChar]
    rw [if_neg (by omega), if_pos (by omega), ofNat_eq (b := a) (by omega),
      ofNat_eq (b := b) (by omega)]
  · simp only [CodePoint.isSurrogate, Bool.and_eq_false_iff, decide_eq_false_iff_not]
    omega

theorem written_three {a b d : UInt8} (least : 0xE0 ≤ a.toNat) (most : a.toNat < 0xF0)
    (second : (secondOfThree false a.toNat).1 ≤ b.toNat)
    (second' : b.toNat ≤ (secondOfThree false a.toNat).2)
    (above : 0x80 ≤ d.toNat) (below : d.toNat ≤ 0xBF) {c : CodePoint}
    (read : c = .ofNat (((a.toNat - 0xE0) * 0x40 + (b.toNat - 0x80)) * 0x40 +
      (d.toNat - 0x80))) :
    encodeChar c = [a, b, d] ∧ c.isSurrogate = false := by
  obtain ⟨aboveB, belowB, noOverlong, noSurrogate⟩ := bounds_secondOfThree second second'
  have noSurrogate := noSurrogate rfl
  have value : c.val = ((a.toNat - 0xE0) * 0x40 + (b.toNat - 0x80)) * 0x40 +
      (d.toNat - 0x80) := by
    rw [read, CodePoint.val_ofNat (by omega)]
  constructor
  · simp only [encodeChar]
    rw [if_neg (by omega), if_neg (by omega), if_pos (by omega), ofNat_eq (b := a) (by omega),
      ofNat_eq (b := b) (by omega), ofNat_eq (b := d) (by omega)]
  · simp only [CodePoint.isSurrogate, Bool.and_eq_false_iff, decide_eq_false_iff_not]
    omega

theorem written_four {a b d e : UInt8} (least : 0xF0 ≤ a.toNat) (most : a.toNat < 0xF5)
    (second : (secondOfFour a.toNat).1 ≤ b.toNat) (second' : b.toNat ≤ (secondOfFour a.toNat).2)
    (aboveD : 0x80 ≤ d.toNat) (belowD : d.toNat ≤ 0xBF) (aboveE : 0x80 ≤ e.toNat)
    (belowE : e.toNat ≤ 0xBF) {c : CodePoint}
    (read : c = .ofNat ((((a.toNat - 0xF0) * 0x40 + (b.toNat - 0x80)) * 0x40 +
      (d.toNat - 0x80)) * 0x40 + (e.toNat - 0x80))) :
    encodeChar c = [a, b, d, e] ∧ c.isSurrogate = false := by
  obtain ⟨aboveB, belowB, noOverlong, inRange⟩ := bounds_secondOfFour second second'
  have value : c.val = (((a.toNat - 0xF0) * 0x40 + (b.toNat - 0x80)) * 0x40 +
      (d.toNat - 0x80)) * 0x40 + (e.toNat - 0x80) := by
    rw [read, CodePoint.val_ofNat (by omega)]
  constructor
  · simp only [encodeChar]
    rw [if_neg (by omega), if_neg (by omega), if_neg (by omega), ofNat_eq (b := a) (by omega),
      ofNat_eq (b := b) (by omega), ofNat_eq (b := d) (by omega), ofNat_eq (b := e) (by omega)]
  · simp only [CodePoint.isSurrogate, Bool.and_eq_false_iff, decide_eq_false_iff_not]
    omega

/-- The octets of one character stand first, and reading goes on behind them. -/
theorem exists_char_of_collect {b : UInt8} {rest : Octets}
    (read : collect position (piecesFrom false none (b :: rest)) = .ok t) :
    ∃ c more left position', t = c :: more ∧ c.isSurrogate = false ∧
      b :: rest = encodeChar c ++ left ∧ left.length ≤ rest.length ∧
      collect position' (piecesFrom false none left) = .ok more := by
  rcases start_of_collect read with ⟨ascii, more, rfl, later⟩ | ⟨least, most, later⟩ |
    ⟨least, most, later⟩ | ⟨least, most, later⟩
  · refine ⟨_, more, rest, _, rfl, ?_, ?_, Nat.le_refl _, later⟩
    · simp only [CodePoint.isSurrogate, CodePoint.val_ofNat (show b.toNat < 0x110000 by omega),
        Bool.and_eq_false_iff, decide_eq_false_iff_not]
      omega
    · rw [encodeChar, CodePoint.val_ofNat (by omega), if_pos ascii, UInt8.ofNat_toNat]
      rfl
  · obtain ⟨b₁, left, more, rfl, above, below, rfl, behind⟩ := collect_last later
    obtain ⟨written, plain⟩ := written_two least most above below rfl
    exact ⟨_, more, left, _, rfl, plain, by rw [written]; rfl, by simp, behind⟩
  · obtain ⟨b₁, rest, rfl, second, second', later⟩ := collect_more later
    obtain ⟨b₂, left, more, rfl, above, below, rfl, behind⟩ := collect_last later
    obtain ⟨written, plain⟩ := written_three least most second second' above below rfl
    refine ⟨_, more, left, _, rfl, plain, by rw [written]; rfl, ?_, behind⟩
    simp only [List.length_cons]
    omega
  · obtain ⟨b₁, rest, rfl, second, second', later⟩ := collect_more later
    obtain ⟨b₂, rest, rfl, above, below, later⟩ := collect_more later
    obtain ⟨b₃, left, more, rfl, above', below', rfl, behind⟩ := collect_last later
    obtain ⟨written, plain⟩ :=
      written_four least most second second' above below above' below' rfl
    refine ⟨_, more, left, _, rfl, plain, by rw [written]; rfl, ?_, behind⟩
    simp only [List.length_cons]
    omega

/-! ## The whole text -/

/-- What strict reading accepts is what is written for the text it gives. -/
theorem encode_of_collect
    (read : collect position (piecesFrom false none octets) = .ok t) :
    octets = encode t ∧ ∀ c ∈ t, c.isSurrogate = false := by
  -- A character takes at least one octet, so the octets behind it are fewer.
  induction size : octets.length using Nat.strongRecOn generalizing octets t position with
  | _ n ih =>
      cases octets with
      | nil =>
          obtain rfl := Except.ok.inj read
          exact ⟨rfl, by simp⟩
      | cons b rest =>
          obtain ⟨c, more, left, position', rfl, plain, parted, shorter, later⟩ :=
            exists_char_of_collect read
          have fewer : left.length < n := by
            rw [← size, List.length_cons]
            omega
          obtain ⟨rfl, allPlain⟩ := ih left.length fewer later rfl
          exact ⟨parted, List.forall_mem_cons.2 ⟨plain, allPlain⟩⟩

/-- Strict reading gives a text for exactly the octets that are written for it, and for
no text with a surrogate. -/
theorem decode_eq_ok :
    decode octets = .ok t ↔ octets = encode t ∧ ∀ c ∈ t, c.isSurrogate = false := by
  constructor
  · exact fun read => encode_of_collect read
  · rintro ⟨rfl, plain⟩
    exact decode_encode plain

end Utf8

namespace Encoding

variable {t : Text} {raw : Octets}

theorem unencodable?_eq_none :
    unencodable? t = none ↔ ∀ c ∈ t, c.isSurrogate = false := by
  have all : t.dropWhile (fun c => !c.isSurrogate) = [] ↔ ∀ c ∈ t, c.isSurrogate = false := by
    simp only [List.dropWhile_eq_nil_iff, Bool.not_eq_true']
  rw [← all, unencodable?]
  split
  next none => simp [none]
  next c rest found => simp [found]

theorem encodeStrict_eq_ok :
    encodeStrict t = .ok raw ↔ raw = Utf8.encode t ∧ ∀ c ∈ t, c.isSurrogate = false := by
  rw [← unencodable?_eq_none, encodeStrict]
  split
  next none => simp [none, eq_comm]
  next fault found => simp [found]

theorem encodeStrict_of_plain (plain : ∀ c ∈ t, c.isSurrogate = false) :
    encodeStrict t = .ok (Utf8.encode t) := encodeStrict_eq_ok.2 ⟨rfl, plain⟩

/-- What has no octets holds a surrogate. -/
theorem exists_surrogate_of_unencodable {fault : Unencodable}
    (failed : encodeStrict t = .error fault) : ∃ c ∈ t, c.isSurrogate = true := by
  have notPlain : ¬ ∀ c ∈ t, c.isSurrogate = false := by
    intro plain
    rw [encodeStrict_of_plain plain] at failed
    cases failed
  simpa using notPlain

end Encoding

end BlockWire
