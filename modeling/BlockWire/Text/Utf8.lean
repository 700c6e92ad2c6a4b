/- # UTF-8

The reader takes one octet at a time and keeps the character it is inside of as
an `Open`: which octets may follow, what has been read of its value, how many
octets that took. An octet that cannot continue the open character ends it as a
fault and is then looked at afresh, so a fault never swallows the start of the
next character.

`pieces` is the whole reading, characters and faults alike. Two readings of it are
used: `decode` refuses the first fault and says where it stands, `decodeLossy`
puts U+FFFD for each. The flag `surrogates` admits the three octets of a
surrogate, which strict UTF-8 refuses at the first of them.

What `encode` writes is read back, by `decode` where there is no surrogate
(`decode_encode`) and by `decodeSurrogates` always. -/
import BlockWire.Text.CodePoint

namespace BlockWire.Utf8

set_option autoImplicit false

/-- Why octets are no character. -/
inductive Problem where
  | startByte
  | continuationByte
  | unexpectedEnd
deriving DecidableEq

/-- What a stretch of octets was read as; a fault covers `width` octets. -/
inductive Piece where
  | char (c : CodePoint) (width : Nat)
  | fault (problem : Problem) (width : Nat)
deriving DecidableEq

/-- A character begun: the bounds of each octet still to come, the value so far,
the octets read. -/
structure Open where
  bounds : List (Nat × Nat)
  value : Nat
  width : Nat
deriving DecidableEq

def tail : Nat × Nat := (0x80, 0xBF)

/-- The bounds of the second octet of three, behind the first. They keep out overlong
forms and, unless admitted, surrogates. -/
def secondOfThree (surrogates : Bool) (first : Nat) : Nat × Nat :=
  if first = 0xE0 then (0xA0, 0xBF)
  else if first = 0xED then (0x80, if surrogates then 0xBF else 0x9F)
  else tail

/-- The bounds of the second octet of four. They keep out overlong forms and
everything past U+10FFFF. -/
def secondOfFour (first : Nat) : Nat × Nat :=
  if first = 0xF0 then (0x90, 0xBF) else if first = 0xF4 then (0x80, 0x8F) else tail

/-- What an octet begins. -/
def start (surrogates : Bool) (b : UInt8) : List Piece × Option Open :=
  let n := b.toNat
  if n < 0x80 then ([.char (.ofNat n) 1], none)
  else if n < 0xC2 then ([.fault .startByte 1], none)
  else if n < 0xE0 then ([], some ⟨[tail], n - 0xC0, 1⟩)
  else if n < 0xF0 then ([], some ⟨[secondOfThree surrogates n, tail], n - 0xE0, 1⟩)
  else if n < 0xF5 then ([], some ⟨[secondOfFour n, tail, tail], n - 0xF0, 1⟩)
  else ([.fault .startByte 1], none)

/-- The two octets read are those of a surrogate. -/
def Open.inSurrogate (o : Open) : Bool := o.width == 2 && 0x360 ≤ o.value && o.value < 0x380

/-- An open character that no octet continues. What turns out not to be a whole
surrogate is refused as if surrogates had not been admitted. -/
def Open.refuse (o : Open) (problem : Problem) : List Piece :=
  if o.inSurrogate then [.fault .continuationByte 1, .fault .startByte 1]
  else [.fault problem o.width]

def Open.push (o : Open) (surrogates : Bool) (b : UInt8) : List Piece × Option Open :=
  match o.bounds with
  | [] => start surrogates b
  | (low, high) :: rest =>
      if low ≤ b.toNat ∧ b.toNat ≤ high then
        let value := o.value * 0x40 + (b.toNat - 0x80)
        if rest.isEmpty then ([.char (.ofNat value) (o.width + 1)], none)
        else ([], some ⟨rest, value, o.width + 1⟩)
      else
        let next := start surrogates b
        (o.refuse .continuationByte ++ next.1, next.2)

def feed (surrogates : Bool) : Option Open → UInt8 → List Piece × Option Open
  | none, b => start surrogates b
  | some o, b => o.push surrogates b

def piecesFrom (surrogates : Bool) : Option Open → Octets → List Piece
  | none, [] => []
  | some o, [] => o.refuse .unexpectedEnd
  | state, b :: rest =>
      let step := feed surrogates state b
      step.1 ++ piecesFrom surrogates step.2 rest

def pieces (surrogates : Bool) (octets : Octets) : List Piece := piecesFrom surrogates none octets

/-- A fault and where it begins. -/
structure Fault where
  problem : Problem
  position : Nat
  width : Nat
deriving DecidableEq

/-- The text of a reading without faults, or its first fault. -/
def collect : Nat → List Piece → Except Fault Text
  | _, [] => .ok []
  | position, .fault problem width :: _ => .error ⟨problem, position, width⟩
  | position, .char c width :: rest => (collect (position + width) rest).map (c :: ·)

def decode (octets : Octets) : Except Fault Text := collect 0 (pieces false octets)

/-- Reads surrogates too. -/
def decodeSurrogates (octets : Octets) : Except Fault Text := collect 0 (pieces true octets)

def Piece.shown : Piece → CodePoint
  | .char c _ => c
  | .fault _ _ => .replacement

def decodeLossy (octets : Octets) : Text := (pieces false octets).map Piece.shown

def encodeChar (c : CodePoint) : Octets :=
  let n := c.val
  if n < 0x80 then [.ofNat n]
  else if n < 0x800 then [.ofNat (0xC0 + n / 0x40), .ofNat (0x80 + n % 0x40)]
  else if n < 0x10000 then
    [.ofNat (0xE0 + n / 0x1000), .ofNat (0x80 + n / 0x40 % 0x40), .ofNat (0x80 + n % 0x40)]
  else
    [.ofNat (0xF0 + n / 0x40000), .ofNat (0x80 + n / 0x1000 % 0x40),
      .ofNat (0x80 + n / 0x40 % 0x40), .ofNat (0x80 + n % 0x40)]

def encode (t : Text) : Octets := t.flatMap encodeChar

/-! ## Reading what was written -/

theorem toNat_octet {n : Nat} (small : n < 0x100) : (UInt8.ofNat n).toNat = n := by
  simp
  omega

theorem piecesFrom_of_open {surrogates : Bool} {state : Option Open} {b : UInt8} {o : Open}
    (fed : feed surrogates state b = ([], some o)) (rest : Octets) :
    piecesFrom surrogates state (b :: rest) = piecesFrom surrogates (some o) rest := by
  cases state <;> simp [piecesFrom, fed]

theorem piecesFrom_of_closed {surrogates : Bool} {state : Option Open} {b : UInt8} {piece : Piece}
    (fed : feed surrogates state b = ([piece], none)) (rest : Octets) :
    piecesFrom surrogates state (b :: rest) = piece :: piecesFrom surrogates none rest := by
  cases state <;> simp [piecesFrom, fed]

theorem feed_one {surrogates : Bool} {n : Nat} (most : n < 0x80) :
    feed surrogates none (.ofNat n) = ([.char (.ofNat n) 1], none) := by
  simp [feed, start, toNat_octet (show n < 0x100 by omega), most]

theorem feed_two {surrogates : Bool} {n : Nat} (least : 2 ≤ n) (most : n < 0x20) :
    feed surrogates none (.ofNat (0xC0 + n)) = ([], some ⟨[tail], n, 1⟩) := by
  simp only [feed, start, toNat_octet (show 0xC0 + n < 0x100 by omega)]
  rw [if_neg (by omega), if_neg (by omega), if_pos (by omega), Nat.add_sub_cancel_left]

theorem feed_three {surrogates : Bool} {n : Nat} (most : n < 0x10) :
    feed surrogates none (.ofNat (0xE0 + n)) =
      ([], some ⟨[secondOfThree surrogates (0xE0 + n), tail], n, 1⟩) := by
  simp only [feed, start, toNat_octet (show 0xE0 + n < 0x100 by omega)]
  rw [if_neg (by omega), if_neg (by omega), if_neg (by omega), if_pos (by omega),
    Nat.add_sub_cancel_left]

theorem feed_four {surrogates : Bool} {n : Nat} (most : n < 5) :
    feed surrogates none (.ofNat (0xF0 + n)) =
      ([], some ⟨[secondOfFour (0xF0 + n), tail, tail], n, 1⟩) := by
  simp only [feed, start, toNat_octet (show 0xF0 + n < 0x100 by omega)]
  rw [if_neg (by omega), if_neg (by omega), if_neg (by omega), if_neg (by omega),
    if_pos (by omega), Nat.add_sub_cancel_left]

/-- An octet within its bounds adds six bits to the character it continues. -/
theorem feed_more {surrogates : Bool} {bounds next : Nat × Nat} {later : List (Nat × Nat)}
    {value width n : Nat} (six : n < 0x40) (above : bounds.1 ≤ 0x80 + n)
    (below : 0x80 + n ≤ bounds.2) :
    feed surrogates (some ⟨bounds :: next :: later, value, width⟩) (.ofNat (0x80 + n)) =
      ([], some ⟨next :: later, value * 0x40 + n, width + 1⟩) := by
  simp only [feed, Open.push, toNat_octet (show 0x80 + n < 0x100 by omega)]
  rw [if_pos ⟨above, below⟩, Nat.add_sub_cancel_left]
  rfl

/-- The last octet that a character needs closes it. -/
theorem feed_last {surrogates : Bool} {bounds : Nat × Nat} {value width n : Nat} (six : n < 0x40)
    (above : bounds.1 ≤ 0x80 + n) (below : 0x80 + n ≤ bounds.2) :
    feed surrogates (some ⟨[bounds], value, width⟩) (.ofNat (0x80 + n)) =
      ([.char (.ofNat (value * 0x40 + n)) (width + 1)], none) := by
  simp only [feed, Open.push, toNat_octet (show 0x80 + n < 0x100 by omega)]
  rw [if_pos ⟨above, below⟩, Nat.add_sub_cancel_left]
  rfl

/-- A character is read back, whatever follows it. -/
theorem piecesFrom_encodeChar {surrogates : Bool} {c : CodePoint}
    (admitted : surrogates = true ∨ c.isSurrogate = false) (rest : Octets) :
    piecesFrom surrogates none (encodeChar c ++ rest) =
      .char c (encodeChar c).length :: piecesFrom surrogates none rest := by
  have bound := c.val_lt
  simp only [CodePoint.isSurrogate, Bool.and_eq_false_iff, decide_eq_false_iff_not] at admitted
  simp only [encodeChar]
  split
  next one =>
    simp only [List.cons_append, List.nil_append]
    rw [piecesFrom_of_closed (feed_one one), CodePoint.ofNat_val]
    rfl
  split
  next two =>
    simp only [List.cons_append, List.nil_append]
    rw [piecesFrom_of_open (feed_two (by omega) (by omega)),
      piecesFrom_of_closed (feed_last (by omega) (by simp [tail]) (by simp [tail]; omega)),
      show c.val / 0x40 * 0x40 + c.val % 0x40 = c.val by omega, CodePoint.ofNat_val]
    rfl
  split
  next three =>
    have bounds :
        (secondOfThree surrogates (0xE0 + c.val / 0x1000)).1 ≤ 0x80 + c.val / 0x40 % 0x40 ∧
          0x80 + c.val / 0x40 % 0x40 ≤ (secondOfThree surrogates (0xE0 + c.val / 0x1000)).2 := by
      simp only [secondOfThree, tail]
      split
      · simp only; omega
      split
      · cases surrogates <;> simp at admitted ⊢ <;> omega
      · simp only; omega
    simp only [List.cons_append, List.nil_append]
    rw [piecesFrom_of_open (feed_three (by omega)),
      piecesFrom_of_open (feed_more (by omega) bounds.1 bounds.2),
      piecesFrom_of_closed (feed_last (by omega) (by simp [tail]) (by simp [tail]; omega)),
      show (c.val / 0x1000 * 0x40 + c.val / 0x40 % 0x40) * 0x40 + c.val % 0x40 = c.val by omega,
      CodePoint.ofNat_val]
    rfl
  next four =>
    have bounds :
        (secondOfFour (0xF0 + c.val / 0x40000)).1 ≤ 0x80 + c.val / 0x1000 % 0x40 ∧
          0x80 + c.val / 0x1000 % 0x40 ≤ (secondOfFour (0xF0 + c.val / 0x40000)).2 := by
      simp only [secondOfFour, tail]
      split
      · simp only; omega
      split <;> simp only <;> omega
    simp only [List.cons_append, List.nil_append]
    rw [piecesFrom_of_open (feed_four (by omega)),
      piecesFrom_of_open (feed_more (by omega) bounds.1 bounds.2),
      piecesFrom_of_open (feed_more (by omega) (by simp [tail]) (by simp [tail]; omega)),
      piecesFrom_of_closed (feed_last (by omega) (by simp [tail]) (by simp [tail]; omega)),
      show ((c.val / 0x40000 * 0x40 + c.val / 0x1000 % 0x40) * 0x40 + c.val / 0x40 % 0x40) * 0x40 +
        c.val % 0x40 = c.val by omega, CodePoint.ofNat_val]
    rfl

theorem collect_pieces_encode {surrogates : Bool} {t : Text}
    (admitted : ∀ c ∈ t, surrogates = true ∨ c.isSurrogate = false) (position : Nat) :
    collect position (pieces surrogates (encode t)) = .ok t := by
  induction t generalizing position with
  | nil => rfl
  | cons c rest ih =>
      have tail := ih (fun x mem => admitted x (List.mem_cons_of_mem c mem))
        (position + (encodeChar c).length)
      have encoded : encode (c :: rest) = encodeChar c ++ encode rest := rfl
      rw [pieces, encoded, piecesFrom_encodeChar (admitted c List.mem_cons_self), collect,
        ← pieces, tail]
      rfl

/-- What is written is read, unless it holds a surrogate. -/
theorem decode_encode {t : Text} (plain : ∀ c ∈ t, c.isSurrogate = false) :
    decode (encode t) = .ok t :=
  collect_pieces_encode (fun c mem => .inr (plain c mem)) 0

theorem decodeSurrogates_encode (t : Text) : decodeSurrogates (encode t) = .ok t :=
  collect_pieces_encode (fun _ _ => .inl rfl) 0

end BlockWire.Utf8
