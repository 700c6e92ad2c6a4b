/- # Where a value ends

A value is read alike whatever stands behind it (`scanValue_local`), by induction on
how deep values may nest: a word, a numeral, a string, or items between brackets that
are read alike themselves. Only words and numerals, which are ASCII, could go on with what
stands behind; all other values are closed (`scanValue_extends`).

`IsMember` takes a member apart into its key, its colon and its value, for any way to
read the value: the members of an object and its raw fields differ in that alone. -/
import BlockWire.Proofs.Json.Items
import BlockWire.Proofs.Json.NumeralText
import BlockWire.Proofs.Json.StringText

namespace BlockWire.Json

set_option autoImplicit false

/-! ## Words and numbers -/

theorem token_word {word : Text × Json} (listed : word ∈ words) : Token word.1 := by
  simp only [words, List.mem_cons, List.not_mem_nil, or_false] at listed
  rcases listed with rfl | rfl | rfl <;>
    exact ⟨by decide, ⟨_, _, rfl, by decide, by decide⟩, ⟨_, rfl, by decide⟩⟩

theorem scanAtom_word {word : Text × Json} (listed : word ∈ words) (rest : Text) :
    scanAtom (word.1 ++ rest) = .ok (word.2, rest) := by
  simp only [words, List.mem_cons, List.not_mem_nil, or_false] at listed
  rcases listed with rfl | rfl | rfl <;> rfl

theorem scan?_word {name : Text} (listed : name ∈ words.map Prod.fst ++ constants)
    (rest : Text) : Numeral.scan? (name ++ rest) = none := by
  simp only [words, constants, List.map_cons, List.map_nil, List.cons_append, List.nil_append,
    List.mem_cons, List.not_mem_nil, or_false] at listed
  rcases listed with rfl | rfl | rfl | rfl | rfl | rfl <;> rfl

/-- No word begins with a numeral, so what does is a number. -/
theorem scanAtom_of_numeral {t left : Text} {n : Numeral}
    (scanned : Numeral.scan? t = some (n, left)) : scanAtom t = scanNumber t := by
  have absent : ∀ name ∈ words.map Prod.fst ++ constants, Text.after? name t = none := by
    intro name listed
    cases found : Text.after? name t with
    | none => rfl
    | some rest =>
        rw [Text.after?_eq_some.1 found, scan?_word listed rest] at scanned
        simp at scanned
  have noWord : (words.findSome? fun word =>
      (Text.after? word.1 t).map fun left => (word.2, left)) = none := by
    rw [List.findSome?_eq_none_iff]
    intro word mem
    rw [absent _ (List.mem_append_left _ (List.mem_map_of_mem mem))]
    rfl
  have noConstant : (constants.find? fun name => (Text.after? name t).isSome) = none := by
    rw [List.find?_eq_none]
    intro name mem
    rw [absent _ (List.mem_append_right _ mem)]
    exact Bool.false_ne_true
  simp only [scanAtom, noWord, noConstant]

/-- A number is its numeral's alone. -/
theorem scanNumber_of_numeral {t left : Text} {v : Json} (read : scanNumber t = .ok (v, left)) :
    ∃ n, Numeral.scan? t = some (n, left) ∧
      ∀ t' rest, Numeral.scan? t' = some (n, rest) → scanNumber t' = .ok (v, rest) := by
  unfold scanNumber at read
  split at read
  · simp at read
  next n behind scanned =>
    split at read
    next pointed =>
      obtain ⟨rfl, rfl⟩ := Prod.mk.inj (Except.ok.inj read)
      refine ⟨n, scanned, fun t' rest scanned' => ?_⟩
      simp only [scanNumber, scanned', if_pos pointed]
    next whole =>
      obtain ⟨short, same⟩ := guard_eq_ok.1 read
      obtain ⟨rfl, rfl⟩ := Prod.mk.inj (Except.ok.inj same)
      refine ⟨n, scanned, fun t' rest scanned' => ?_⟩
      simp only [scanNumber, scanned', if_neg whole, if_neg short]

/-- A numeral is a number with a point, or a whole one that is not too long. -/
theorem scanNumber_cases {t left : Text} {v : Json} (read : scanNumber t = .ok (v, left)) :
    ∃ n, Numeral.scan? t = some (n, left) ∧
      (n.isWhole = false ∧ v = .float n.toBinary64 ∨
        n.isWhole = true ∧ n.whole.length ≤ Text.digitLimit ∧ v = .int n.toInt) := by
  unfold scanNumber at read
  split at read
  · simp at read
  next n behind scanned =>
    split at read
    next pointed =>
      obtain ⟨rfl, rfl⟩ := Prod.mk.inj (Except.ok.inj read)
      exact ⟨n, scanned, .inl ⟨by simpa using pointed, rfl⟩⟩
    next whole =>
      obtain ⟨short, same⟩ := guard_eq_ok.1 read
      obtain ⟨rfl, rfl⟩ := Prod.mk.inj (Except.ok.inj same)
      exact ⟨n, scanned, .inr ⟨by simpa using whole, Nat.not_lt.1 short, rfl⟩⟩

/-- What is read without anything inside is a word or a number. -/
theorem scanAtom_cases {t left : Text} {v : Json} (read : scanAtom t = .ok (v, left)) :
    (∃ word ∈ words, t = word.1 ++ left ∧ v = word.2) ∨ scanNumber t = .ok (v, left) := by
  unfold scanAtom at read
  split at read
  next found first =>
    obtain rfl := Except.ok.inj read
    obtain ⟨word, listed, after⟩ := List.exists_of_findSome?_eq_some first
    obtain ⟨rest, stands, same⟩ := Option.map_eq_some_iff.1 after
    obtain ⟨rfl, rfl⟩ := Prod.mk.inj same
    exact .inl ⟨word, listed, Text.after?_eq_some.1 stands, rfl⟩
  split at read
  · simp at read
  · exact .inr read

/-- The values that are read so. -/
theorem scanAtom_value {t left : Text} {v : Json} (read : scanAtom t = .ok (v, left)) :
    v = .null ∨ (∃ b, v = .bool b) ∨
      ∃ n, Numeral.scan? t = some (n, left) ∧
        (v = .float n.toBinary64 ∨ n.whole.length ≤ Text.digitLimit ∧ v = .int n.toInt) := by
  rcases scanAtom_cases read with ⟨word, listed, -, rfl⟩ | number
  · simp only [words, List.mem_cons, List.not_mem_nil, or_false] at listed
    rcases listed with rfl | rfl | rfl
    · exact .inl rfl
    · exact .inr (.inl ⟨true, rfl⟩)
    · exact .inr (.inl ⟨false, rfl⟩)
  · obtain ⟨n, scanned, ⟨-, pointed⟩ | ⟨-, whole⟩⟩ := scanNumber_cases number
    · exact .inr (.inr ⟨n, scanned, .inl pointed⟩)
    · exact .inr (.inr ⟨n, scanned, .inr whole⟩)

theorem isAscii_word {word : Text × Json} (listed : word ∈ words) : ∀ c ∈ word.1, c.val < 0x80 := by
  simp only [words, List.mem_cons, List.not_mem_nil, or_false] at listed
  rcases listed with rfl | rfl | rfl <;> decide

theorem scanAtom_extent {t left : Text} {v : Json} (read : scanAtom t = .ok (v, left)) :
    ∃ s, t = s ++ left ∧ Token s ∧ Takes scanAtom s v ∧ ∀ c ∈ s, c.val < 0x80 := by
  rcases scanAtom_cases read with ⟨word, listed, rfl, rfl⟩ | number
  · exact ⟨word.1, rfl, token_word listed, fun rest _ => scanAtom_word listed rest,
      isAscii_word listed⟩
  · obtain ⟨n, scanned, sameNumber⟩ := scanNumber_of_numeral number
    obtain ⟨s, parted, nonempty, parts, same⟩ := Numeral.scan?_local scanned
    refine ⟨s, parted, Numeral.token_of_parts nonempty parts, fun rest ends => ?_,
      fun c mem => (Numeral.bounds_of_isPart (parts c mem)).2⟩
    rw [scanAtom_of_numeral (same rest ends)]
    exact sameNumber _ rest (same rest ends)

/-! ## Members -/

/-- A key, a colon and what `value` reads behind it. -/
def IsMember {ε α : Type} (value : Scan ε α) (t : Text) (member : Text × α) (left : Text) :
    Prop :=
  ∃ u named behind, t = .ofChar '"' :: u ∧ scanString t = .ok (member.1, named) ∧
    skipBlanks named = .ofChar ':' :: behind ∧
    value (skipBlanks behind) = .ok (member.2, left)

theorem scanMember_eq_ok {value : Scan (Fault Text) Json} {t left : Text} {member : Text × Json} :
    scanMember value t = .ok (member, left) ↔ IsMember value t member left := by
  constructor
  · intro read
    cases t with
    | nil => simp [scanMember] at read
    | cons c u =>
        rw [scanMember] at read
        split at read
        next quote =>
          subst quote
          obtain ⟨⟨key, named⟩, string, read⟩ := bind_eq_ok.1 read
          simp only at read
          split at read
          · simp at read
          next d behind colon =>
            split at read
            next isColon =>
              subst isColon
              obtain ⟨⟨x, left'⟩, inside, same⟩ := bind_eq_ok.1 read
              obtain ⟨rfl, rfl⟩ := Prod.mk.inj (Except.ok.inj same)
              exact ⟨u, named, behind, rfl, string, colon, inside⟩
            · simp at read
        · simp at read
  · rintro ⟨u, named, behind, rfl, string, colon, inside⟩
    simp only [scanMember, if_true, string, bind, Except.bind, colon, inside]

section

variable {ε ε' α β : Type}

theorem IsMember.locality {value : Scan ε α} (near : Local value) {t left : Text}
    {member : Text × α} (read : IsMember value t member left) :
    ∃ s, t = s ++ left ∧ Token s ∧
      ∀ rest, Ends rest → IsMember value (s ++ rest) member rest := by
  obtain ⟨u, named, behind, rfl, string, colon, inside⟩ := read
  obtain ⟨body, rfl, printable, sameString⟩ := scanString_local string
  obtain ⟨blanks, spaced, areBlanks⟩ := exists_span isBlank named
  obtain ⟨blanks', spaced', areBlanks'⟩ := exists_span isBlank behind
  obtain ⟨s, stands, token, takes⟩ := near inside
  rw [show named.dropWhile isBlank = .ofChar ':' :: behind from colon] at spaced
  rw [show behind.dropWhile isBlank = s ++ left from stands] at spaced'
  refine ⟨.ofChar '"' :: (body ++ .ofChar '"' :: (blanks ++ .ofChar ':' :: (blanks' ++ s))),
    ?_, ?_, fun rest ends => ?_⟩
  · rw [spaced, spaced']
    simp only [List.append_assoc, List.cons_append]
  · obtain ⟨last, isLast, solid⟩ := token.stops
    refine ⟨?_, ⟨_, _, rfl, by decide, by decide⟩, last, ?_, solid⟩
    · intro c mem
      simp only [List.mem_append, List.mem_cons] at mem
      rcases mem with rfl | inBody | rfl | inBlanks | rfl | inBlanks | inValue
      · decide
      · exact Nat.ne_of_gt (Nat.lt_of_lt_of_le (by decide) (printable c inBody))
      · decide
      · exact ne_zero_of_isBlank (areBlanks c inBlanks)
      · decide
      · exact ne_zero_of_isBlank (areBlanks' c inBlanks)
      · exact token.noZero c inValue
    · have front : .ofChar '"' :: (body ++ .ofChar '"' :: (blanks ++ .ofChar ':' :: (blanks' ++ s)))
          = (.ofChar '"' :: (body ++ .ofChar '"' :: (blanks ++ .ofChar ':' :: blanks'))) ++ s := by
        simp only [List.append_assoc, List.cons_append]
      rw [front, List.getLast?_append, isLast, Option.some_or]
  · simp only [List.append_assoc, List.cons_append]
    refine ⟨_, blanks ++ .ofChar ':' :: (blanks' ++ (s ++ rest)), blanks' ++ (s ++ rest), rfl,
      sameString _, skipBlanks_append areBlanks (stops_cons.2 (by decide)), ?_⟩
    rw [skipBlanks_append areBlanks' (token.solid rest)]
    exact takes rest ends

theorem IsMember.follow {value : Scan ε α} {value' : Scan ε' β} {R : α → β → Prop}
    (follows : Follows value value' R) {t left : Text} {member : Text × α}
    (read : IsMember value t member left) :
    ∃ member', IsMember value' t member' left ∧ member.1 = member'.1 ∧ R member.2 member'.2 := by
  obtain ⟨u, named, behind, same, string, colon, inside⟩ := read
  obtain ⟨y, inside', related⟩ := follows inside
  exact ⟨(member.1, y), ⟨u, named, behind, same, string, colon, inside'⟩, rfl, related⟩

/-- What is written without blanks is a member, its key with the halves of pairs joined. -/
theorem isMember_written_joined {value : Scan ε α} (key : Text) {s : Text} {x : α}
    (near : Local value) (takes : Takes value s x) {rest : Text} (ends : Ends rest) :
    IsMember value (printString key ++ ":" ++ s ++ rest) (Wide.joinPairs key, x) rest := by
  have token := near.token takes
  refine ⟨key.flatMap escaped ++ [.ofChar '"'] ++ .ofChar ':' :: (s ++ rest),
    .ofChar ':' :: (s ++ rest), s ++ rest, ?_, ?_, skipBlanks_of_stops (stops_cons.2 (by decide)),
    ?_⟩
  · rw [printString_eq, List.append_assoc, List.append_assoc]
    rfl
  · rw [List.append_assoc, List.append_assoc]
    exact scanString_printString_joined key _
  · rw [skipBlanks_of_stops (token.solid rest)]
    exact takes rest ends

theorem isMember_written {value : Scan ε α} {key s : Text} {x : α} (unpaired : Unpaired key)
    (near : Local value) (takes : Takes value s x) {rest : Text} (ends : Ends rest) :
    IsMember value (printString key ++ ":" ++ s ++ rest) (key, x) rest := by
  have written := isMember_written_joined key near takes ends
  rwa [joinPairs_of_unpaired unpaired] at written

/-- A value that is rejected makes no member, whatever its key. -/
theorem not_isMember_written {value : Scan ε α} (key : Text) {s : Text}
    (rejected : Rejects value s) (rest : Text) (member : Text × α) (left : Text) :
    ¬ IsMember value (printString key ++ ":" ++ s ++ rest) member left := by
  rintro ⟨u, named, behind, -, string, colon, inside⟩
  rw [List.append_assoc, List.append_assoc, scanString_printString_joined] at string
  obtain ⟨-, rfl⟩ := Prod.mk.inj (Except.ok.inj string)
  have after : skipBlanks (Text.ofString ":" ++ (s ++ rest)) = .ofChar ':' :: (s ++ rest) :=
    skipBlanks_of_stops (stops_cons.2 (by decide))
  obtain ⟨-, rfl⟩ := List.cons.inj (after.symm.trans colon)
  rw [skipBlanks_of_stops (rejected.solid rest)] at inside
  exact rejected.never rest _ inside

end

theorem scanMember_local {value : Scan (Fault Text) Json} (near : Local value) :
    Local (scanMember value) := by
  intro t left member read
  obtain ⟨s, parted, token, same⟩ := (scanMember_eq_ok.1 read).locality near
  exact ⟨s, parted, token, fun rest ends => scanMember_eq_ok.2 (same rest ends)⟩

theorem scanMember_apart (value : Scan (Fault Text) Json) :
    Apart (scanMember value) (.ofChar '\x7d') := by
  intro rest read member
  simp [scanMember, show CodePoint.ofChar '\x7d' ≠ .ofChar '"' by decide] at member

/-! ## Values -/

section

variable {nested : Option (Scan (Fault Text) Json)} {value : Scan (Fault Text) Json}

theorem scanWith_quote (rest : Text) :
    scanWith nested (.ofChar '"' :: rest) =
      scanString (.ofChar '"' :: rest) >>= fun read => .ok (.str read.1, read.2) := by
  cases nested <;> rw [scanWith, if_pos rfl]

theorem scanWith_brace (rest : Text) :
    scanWith (some value) (.ofChar '\x7b' :: rest) =
      items (scanMember value) (.ofChar '\x7d') comma rest >>=
        fun read => .ok (.obj (Keyed.ofPairs read.1), read.2) := by
  rw [scanWith, if_neg (by decide), if_pos rfl]

theorem scanWith_bracket (rest : Text) :
    scanWith (some value) (.ofChar '[' :: rest) =
      items value (.ofChar ']') comma rest >>= fun read => .ok (.arr read.1, read.2) := by
  rw [scanWith, if_neg (by decide), if_neg (by decide), if_pos rfl]

theorem scanWith_none {c : CodePoint} (opens : c = .ofChar '\x7b' ∨ c = .ofChar '[')
    (rest : Text) : scanWith none (c :: rest) = .error .tooDeep := by
  rcases opens with rfl | rfl
  · rw [scanWith, if_neg (by decide), if_pos rfl]
  · rw [scanWith, if_neg (by decide), if_neg (by decide), if_pos rfl]

theorem scanWith_atom {c : CodePoint} (noQuote : c ≠ .ofChar '"')
    (noBrace : c ≠ .ofChar '\x7b') (noBracket : c ≠ .ofChar '[') (rest : Text) :
    scanWith nested (c :: rest) = scanAtom (c :: rest) := by
  cases nested <;> rw [scanWith, if_neg noQuote, if_neg noBrace, if_neg noBracket]

/-- Nothing else that a value can begin with is part of a numeral. -/
theorem scanWith_of_numeral {t left : Text} {n : Numeral}
    (scanned : Numeral.scan? t = some (n, left)) : scanWith nested t = scanNumber t := by
  cases t with
  | nil => simp [Numeral.scan?, Numeral.scanMinus, Numeral.scanWhole?] at scanned
  | cons c rest =>
      have other : ∀ d ∈ [CodePoint.ofChar '"', .ofChar '\x7b', .ofChar '['], c ≠ d := by
        rintro d mem rfl
        simp only [List.mem_cons, List.not_mem_nil, or_false] at mem
        have noNumeral : Numeral.scan? (c :: rest) = none := by
          rcases mem with rfl | rfl | rfl <;> rfl
        rw [noNumeral] at scanned
        simp at scanned
      rw [scanWith_atom (other _ (by simp)) (other _ (by simp)) (other _ (by simp)),
        scanAtom_of_numeral scanned]

theorem scanWith_apart : Apart (scanWith nested) (.ofChar ']') := by
  intro rest read
  have noValue : scanAtom (.ofChar ']' :: rest) = .error (.located .value (.ofChar ']' :: rest)) :=
    rfl
  rw [scanWith_atom (by decide) (by decide) (by decide), noValue]
  simp

theorem closer_quote : Closer (.ofChar '"') := ⟨by decide, by decide, by decide, by decide⟩

/-- A scan takes a token that is closed, whatever stands behind it, or one of ASCII. -/
def Extends {ε α : Type} (scan : Scan ε α) : Prop :=
  ∀ ⦃t left : Text⦄ ⦃x : α⦄, scan t = .ok (x, left) → ∃ s, t = s ++ left ∧ Token s ∧
    ((∀ rest, scan (s ++ rest) = .ok (x, rest)) ∨ Takes scan s x ∧ ∀ c ∈ s, c.val < 0x80)

theorem Extends.near {ε α : Type} {scan : Scan ε α} (extent : Extends scan) : Local scan := by
  intro t left x read
  obtain ⟨s, parted, token, closed | ⟨takes, -⟩⟩ := extent read
  · exact ⟨s, parted, token, fun rest _ => closed rest⟩
  · exact ⟨s, parted, token, takes⟩

/-- What is read alike from its opening to its closing code point is a token. -/
theorem token_enclosed {ε α : Type} {scan : Scan ε α} {opening close : CodePoint} {s : Text}
    {x : α} (closer : Closer close) (ascii : opening.val < 0x80) (solid : isBlank opening = false)
    (opens : opening.val ≠ 0) (noZero : ∀ c ∈ s, c.val ≠ 0)
    (same : ∀ rest, scan (opening :: (s ++ close :: rest)) = .ok (x, rest)) (left : Text) :
    ∃ s', opening :: (s ++ close :: left) = s' ++ left ∧ Token s' ∧
      ∀ rest, scan (s' ++ rest) = .ok (x, rest) := by
  refine ⟨opening :: (s ++ [close]), ?_, ?_, fun rest => ?_⟩
  · rw [List.cons_append, ← List.append_cons]
  · refine Token.enclose ascii solid closer.solid fun c mem => ?_
    simp only [List.mem_cons, List.mem_append, List.not_mem_nil, or_false] at mem
    rcases mem with rfl | inside | rfl
    · exact opens
    · exact noZero c inside
    · exact closer.noZero
  · rw [List.cons_append, ← List.append_cons]
    exact same rest

/-- The four ways in which a value is read, as its first code point has it. -/
theorem scanWith_cases {t left : Text} {v : Json} (read : scanWith nested t = .ok (v, left)) :
    (∃ rest body, t = .ofChar '"' :: rest ∧ scanString t = .ok (body, left) ∧ v = .str body) ∨
      (∃ value ∈ nested, ∃ rest members, t = .ofChar '\x7b' :: rest ∧
        items (scanMember value) (.ofChar '\x7d') comma rest = .ok (members, left) ∧
        v = .obj (Keyed.ofPairs members)) ∨
      (∃ value ∈ nested, ∃ rest values, t = .ofChar '[' :: rest ∧
        items value (.ofChar ']') comma rest = .ok (values, left) ∧ v = .arr values) ∨
      ∃ c rest, t = c :: rest ∧ c ≠ .ofChar '"' ∧ c ≠ .ofChar '\x7b' ∧ c ≠ .ofChar '[' ∧
        scanAtom t = .ok (v, left) := by
  cases t with
  | nil => simp [scanWith] at read
  | cons c rest =>
      by_cases quote : c = .ofChar '"'
      · subst quote
        rw [scanWith_quote, bind_eq_ok] at read
        obtain ⟨⟨body, behind⟩, string, same⟩ := read
        obtain ⟨rfl, rfl⟩ := Prod.mk.inj (Except.ok.inj same)
        exact .inl ⟨rest, body, rfl, string, rfl⟩
      by_cases opens : c = .ofChar '\x7b' ∨ c = .ofChar '['
      · cases nested with
        | none => simp [scanWith_none opens] at read
        | some value =>
            rcases opens with rfl | rfl
            · rw [scanWith_brace, bind_eq_ok] at read
              obtain ⟨⟨members, behind⟩, inside, same⟩ := read
              obtain ⟨rfl, rfl⟩ := Prod.mk.inj (Except.ok.inj same)
              exact .inr (.inl ⟨value, rfl, rest, members, rfl, inside, rfl⟩)
            · rw [scanWith_bracket, bind_eq_ok] at read
              obtain ⟨⟨values, behind⟩, inside, same⟩ := read
              obtain ⟨rfl, rfl⟩ := Prod.mk.inj (Except.ok.inj same)
              exact .inr (.inr (.inl ⟨value, rfl, rest, values, rfl, inside, rfl⟩))
      · rw [not_or] at opens
        rw [scanWith_atom quote opens.1 opens.2] at read
        exact .inr (.inr (.inr ⟨c, rest, rfl, quote, opens.1, opens.2, read⟩))

theorem scanWith_extends
    (near : ∀ value ∈ nested, Local value ∧ Apart value (.ofChar ']')) :
    Extends (scanWith nested) := by
  intro t left v read
  rcases scanWith_cases read with ⟨u, body, rfl, string, rfl⟩ |
    ⟨value, here, u, members, rfl, inside, rfl⟩ | ⟨value, here, u, values, rfl, inside, rfl⟩ |
    ⟨c, u, rfl, noQuote, noBrace, noBracket, atom⟩
  · obtain ⟨s, rfl, printable, sameString⟩ := scanString_local string
    have noZero : ∀ c ∈ s, c.val ≠ 0 := by
      intro c mem
      have control := printable c mem
      omega
    have same (rest : Text) : scanWith nested (.ofChar '"' :: (s ++ .ofChar '"' :: rest)) =
        .ok (.str body, rest) := by
      rw [scanWith_quote, sameString]
      rfl
    obtain ⟨s', parted, token, closed⟩ := token_enclosed closer_quote (by decide) (by decide)
      (by decide) noZero same left
    exact ⟨s', parted, token, .inl closed⟩
  · obtain rfl := Option.mem_def.1 here
    have nearMember : Local (scanMember value) := scanMember_local (near value rfl).1
    obtain ⟨s, rfl, noZero, sameItems⟩ :=
      items_local closer_brace nearMember (scanMember_apart value) inside
    have same (rest : Text) :
        scanWith (some value) (.ofChar '\x7b' :: (s ++ .ofChar '\x7d' :: rest)) =
          .ok (.obj (Keyed.ofPairs members), rest) := by
      rw [scanWith_brace, sameItems]
      rfl
    obtain ⟨s', parted, token, closed⟩ := token_enclosed closer_brace (by decide) (by decide)
      (by decide) noZero same left
    exact ⟨s', parted, token, .inl closed⟩
  · obtain rfl := Option.mem_def.1 here
    obtain ⟨nearValue, apart⟩ := near value rfl
    obtain ⟨s, rfl, noZero, sameItems⟩ := items_local closer_bracket nearValue apart inside
    have same (rest : Text) :
        scanWith (some value) (.ofChar '[' :: (s ++ .ofChar ']' :: rest)) =
          .ok (.arr values, rest) := by
      rw [scanWith_bracket, sameItems]
      rfl
    obtain ⟨s', parted, token, closed⟩ := token_enclosed closer_bracket (by decide) (by decide)
      (by decide) noZero same left
    exact ⟨s', parted, token, .inl closed⟩
  · obtain ⟨s, parted, token, takes, ascii⟩ := scanAtom_extent atom
    refine ⟨s, parted, token, .inr ⟨fun rest ends => ?_, ascii⟩⟩
    obtain ⟨c', s', rfl, -, -⟩ := token.starts
    obtain ⟨rfl, -⟩ := List.cons.inj parted
    rw [List.cons_append, scanWith_atom noQuote noBrace noBracket]
    exact takes rest ends

end

theorem scanValue_apart (depth : Nat) : Apart (scanValue depth) (.ofChar ']') := by
  cases depth <;> exact scanWith_apart

theorem scanValue_extends (depth : Nat) : Extends (scanValue depth) := by
  induction depth with
  | zero => exact scanWith_extends (by simp)
  | succ depth ih =>
      refine scanWith_extends fun value isNested => ?_
      obtain rfl := Option.some.inj isNested
      exact ⟨ih.near, scanValue_apart depth⟩

/-- A value is read alike whatever stands behind it. -/
theorem scanValue_local (depth : Nat) : Local (scanValue depth) := (scanValue_extends depth).near

/-- A value that holds a surrogate is closed. -/
theorem scanValue_append_of_surrogate {depth : Nat} {s : Text} {v : Json}
    (read : scanValue depth s = .ok (v, [])) (surrogate : ∃ c ∈ s, c.isSurrogate = true)
    (rest : Text) : scanValue depth (s ++ rest) = .ok (v, rest) := by
  obtain ⟨s', same, -, closed | ⟨-, ascii⟩⟩ := scanValue_extends depth read
  · rw [List.append_nil] at same
    rw [same]
    exact closed rest
  · obtain ⟨c, mem, isSurrogate⟩ := surrogate
    rw [List.append_nil] at same
    have below := ascii c (same ▸ mem)
    simp only [CodePoint.isSurrogate, Bool.and_eq_true, decide_eq_true_eq] at isSurrogate
    omega

end BlockWire.Json
