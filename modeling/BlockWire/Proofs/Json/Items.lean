/- # What stands between brackets

`Parted` says what items parted by commas are, by their shape alone and without
counting them. `items_eq_ok` says that `items` finds exactly these: an item takes at
least one code point, so the count never runs out first.

From the relation follows, by induction on how the items stand, that items are found
alike whatever stands behind the bracket (`items_local`), that a second way to read an
item finds the same items (`items_follow`), and that what is written without blanks is
read back (`items_join`). Where items fail in a way of their own, some are read and the next
one fails so (`items_eq_error`). -/
import BlockWire.Proofs.Outcome
import BlockWire.Proofs.Json.Token
import Mathlib.Data.List.Forall2

namespace BlockWire.Json

set_option autoImplicit false

theorem Local.length_lt {ε α : Type} {scan : Scan ε α} (near : Local scan) {t left : Text} {x : α}
    (read : scan t = .ok (x, left)) : left.length < t.length := by
  obtain ⟨s, rfl, token, -⟩ := near read
  have pos := token.length_pos
  rw [List.length_append]
  omega

theorem Local.solid {ε α : Type} {scan : Scan ε α} (near : Local scan) {t left : Text} {x : α}
    (read : scan t = .ok (x, left)) : Stops isBlank t := by
  obtain ⟨s, rfl, token, -⟩ := near read
  exact token.solid left

/-- What a closing bracket has to be: no blank, no comma and no part of a numeral. -/
structure Closer (close : CodePoint) : Prop where
  noZero : close.val ≠ 0
  solid : isBlank close = false
  noComma : close ≠ .ofChar ','
  ends : continuesNumeral close = false

theorem closer_brace : Closer (.ofChar '\x7d') := ⟨by decide, by decide, by decide, by decide⟩

theorem closer_bracket : Closer (.ofChar ']') := ⟨by decide, by decide, by decide, by decide⟩

section

variable {ε ε' α β : Type} {item : Scan ε α} {close : CodePoint}

inductive Parted (item : Scan ε α) (close : CodePoint) : Text → List α → Text → Prop where
  | last {t left rest : Text} {x : α} (head : item t = .ok (x, left))
      (closed : skipBlanks left = close :: rest) : Parted item close t [x] rest
  | more {t left behind rest : Text} {x : α} {xs : List α} (head : item t = .ok (x, left))
      (parted : skipBlanks left = .ofChar ',' :: behind)
      (tail : Parted item close (skipBlanks behind) xs rest) : Parted item close t (x :: xs) rest

/-! ## Counting never matters -/

theorem itemsWithin_eq_ok (closer : Closer close) {unparted : Text → ε} {fuel : Nat}
    {t rest : Text} {xs : List α} :
    itemsWithin item close unparted fuel t = .ok (xs, rest) ↔
      Parted item close t xs rest ∧ xs.length ≤ fuel := by
  constructor
  · intro read
    induction fuel generalizing t xs with
    | zero => simp [itemsWithin] at read
    | succ fuel ih =>
        obtain ⟨⟨x, left⟩, head, read⟩ := bind_eq_ok.1 read
        simp only at read
        split at read
        · simp at read
        next c behind stands =>
          split at read
          next closed =>
            obtain ⟨rfl, rfl⟩ := Prod.mk.inj (Except.ok.inj read)
            exact ⟨.last head (closed ▸ stands), Nat.succ_le_succ (Nat.zero_le fuel)⟩
          split at read
          next parted =>
            obtain ⟨⟨ys, left'⟩, later, same⟩ := bind_eq_ok.1 read
            obtain ⟨rfl, rfl⟩ := Prod.mk.inj (Except.ok.inj same)
            obtain ⟨tail, few⟩ := ih later
            exact ⟨.more head (parted ▸ stands) tail, Nat.succ_le_succ few⟩
          · simp at read
  · rintro ⟨read, few⟩
    induction read generalizing fuel with
    | last head closed =>
        cases fuel with
        | zero => simp at few
        | succ fuel =>
            rw [itemsWithin, head]
            simp only [bind, Except.bind, closed, if_true]
    | more head parted tail ih =>
        cases fuel with
        | zero => simp at few
        | succ fuel =>
            have later := ih (Nat.le_of_succ_le_succ few)
            rw [itemsWithin, head]
            simp only [bind, Except.bind, parted, if_neg (Ne.symm closer.noComma), if_true, later]

theorem Parted.length_le (near : Local item) {t rest : Text} {xs : List α}
    (read : Parted item close t xs rest) : xs.length ≤ t.length := by
  induction read with
  | last head _ => exact Nat.lt_of_le_of_lt (Nat.zero_le _) (near.length_lt head)
  | @more t left behind rest x xs head parted tail ih =>
      have shorter := near.length_lt head
      have blanks : (skipBlanks left).length ≤ left.length :=
        (List.dropWhile_sublist _).length_le
      have blanks' : (skipBlanks behind).length ≤ behind.length :=
        (List.dropWhile_sublist _).length_le
      rw [parted, List.length_cons] at blanks
      rw [List.length_cons]
      omega

theorem Parted.solid (near : Local item) {t rest : Text} {xs : List α}
    (read : Parted item close t xs rest) : Stops isBlank t := by
  cases read with
  | last head _ => exact near.solid head
  | more head _ _ => exact near.solid head

/-- No item begins with the closing bracket. -/
def Apart (item : Scan ε α) (close : CodePoint) : Prop :=
  ∀ rest read, item (close :: rest) ≠ .ok read

theorem Parted.head_ne (apart : Apart item close) {t rest u : Text} {xs : List α} {c : CodePoint}
    (read : Parted item close t xs rest) (stands : t = c :: u) : c ≠ close := by
  rintro rfl
  subst stands
  cases read with
  | last head _ => exact apart u _ head
  | more head _ _ => exact apart u _ head

theorem items_eq_ok (closer : Closer close) (near : Local item) (apart : Apart item close)
    {unparted : Text → ε} {t rest : Text} {xs : List α} :
    items item close unparted t = .ok (xs, rest) ↔
      (skipBlanks t = close :: rest ∧ xs = []) ∨ Parted item close (skipBlanks t) xs rest := by
  unfold items
  cases stands : skipBlanks t with
  | nil =>
      simp only [itemsWithin_eq_ok closer]
      constructor
      · exact fun read => .inr read.1
      · rintro (⟨closed, -⟩ | read)
        · simp at closed
        · -- An item is no empty text.
          have few := read.length_le near
          exact ⟨read, Nat.le_trans few (Nat.zero_le 1)⟩
  | cons c u =>
      simp only
      split
      next closed =>
        subst closed
        constructor
        · intro same
          obtain ⟨rfl, rfl⟩ := Prod.mk.inj (Except.ok.inj same)
          exact .inl ⟨rfl, rfl⟩
        · rintro (⟨same, rfl⟩ | read)
          · rw [(List.cons.inj same).2]
          · exact absurd rfl (read.head_ne apart rfl)
      next other =>
        rw [itemsWithin_eq_ok closer]
        constructor
        · exact fun read => .inr read.1
        · rintro (⟨same, -⟩ | read)
          · exact absurd (List.cons.inj same).1 other
          · exact ⟨read, read.length_le near⟩

/-! ## Locality -/

theorem Ends.cons {c : CodePoint} (ends : continuesNumeral c = false) (rest : Text) :
    Ends (c :: rest) := stops_cons.2 ends

theorem Parted.locality (closer : Closer close) (near : Local item) {t left : Text} {xs : List α}
    (read : Parted item close t xs left) :
    ∃ s, t = s ++ close :: left ∧ (∀ c ∈ s, c.val ≠ 0) ∧
      ∀ rest, Parted item close (s ++ close :: rest) xs rest := by
  induction read with
  | @last t left rest x head closed =>
      obtain ⟨s, rfl, token, takes⟩ := near head
      obtain ⟨blanks, spaced, areBlanks⟩ := exists_span isBlank left
      rw [show left.dropWhile isBlank = close :: rest from closed] at spaced
      refine ⟨s ++ blanks, by rw [spaced, List.append_assoc], ?_, fun rest => ?_⟩
      · intro c mem
        rcases List.mem_append.1 mem with inItem | inBlanks
        · exact token.noZero c inItem
        · exact ne_zero_of_isBlank (areBlanks c inBlanks)
      · rw [List.append_assoc]
        refine .last (takes _ (Ends.append areBlanks (Ends.cons closer.ends rest))) ?_
        exact skipBlanks_append areBlanks (stops_cons.2 closer.solid)
  | @more t left behind rest x xs head parted tail ih =>
      obtain ⟨s, rfl, token, takes⟩ := near head
      obtain ⟨blanks, spaced, areBlanks⟩ := exists_span isBlank left
      obtain ⟨blanks', spaced', areBlanks'⟩ := exists_span isBlank behind
      obtain ⟨s', later, noZero, same⟩ := ih
      rw [show left.dropWhile isBlank = .ofChar ',' :: behind from parted] at spaced
      rw [show behind.dropWhile isBlank = s' ++ close :: rest from later] at spaced'
      refine ⟨s ++ (blanks ++ .ofChar ',' :: (blanks' ++ s')), ?_, ?_, fun rest => ?_⟩
      · rw [spaced, spaced']
        simp only [List.append_assoc, List.cons_append]
      · intro c mem
        simp only [List.mem_append, List.mem_cons] at mem
        rcases mem with inItem | inBlanks | rfl | inBlanks | inItems
        · exact token.noZero c inItem
        · exact ne_zero_of_isBlank (areBlanks c inBlanks)
        · decide
        · exact ne_zero_of_isBlank (areBlanks' c inBlanks)
        · exact noZero c inItems
      · simp only [List.append_assoc, List.cons_append]
        refine .more (takes _ (Ends.append areBlanks (Ends.cons (by decide) _)))
          (skipBlanks_append areBlanks (stops_cons.2 (by decide))) ?_
        rw [skipBlanks_append areBlanks' ((same rest).solid near)]
        exact same rest

/-- Items are found alike whatever stands behind the closing bracket. -/
theorem items_local (closer : Closer close) (near : Local item) (apart : Apart item close)
    {unparted : Text → ε} {t left : Text} {xs : List α}
    (read : items item close unparted t = .ok (xs, left)) :
    ∃ s, t = s ++ close :: left ∧ (∀ c ∈ s, c.val ≠ 0) ∧
      ∀ rest, items item close unparted (s ++ close :: rest) = .ok (xs, rest) := by
  obtain ⟨blanks, spaced, areBlanks⟩ := exists_span isBlank t
  have noZero : ∀ c ∈ blanks, c.val ≠ 0 := fun c mem => ne_zero_of_isBlank (areBlanks c mem)
  rcases (items_eq_ok closer near apart).1 read with ⟨closed, rfl⟩ | read
  · rw [show t.dropWhile isBlank = close :: left from closed] at spaced
    refine ⟨blanks, spaced, noZero, fun rest => ?_⟩
    refine (items_eq_ok closer near apart).2 (.inl ⟨?_, rfl⟩)
    exact skipBlanks_append areBlanks (stops_cons.2 closer.solid)
  · obtain ⟨s, stands, noZero', same⟩ := read.locality closer near
    rw [show t.dropWhile isBlank = s ++ close :: left from stands] at spaced
    refine ⟨blanks ++ s, by rw [spaced, List.append_assoc], ?_, fun rest => ?_⟩
    · intro c mem
      rcases List.mem_append.1 mem with inBlanks | inItems
      · exact noZero c inBlanks
      · exact noZero' c inItems
    · rw [List.append_assoc]
      refine (items_eq_ok closer near apart).2 (.inr ?_)
      rw [skipBlanks_append areBlanks ((same rest).solid near)]
      exact same rest

/-! ## A second way to read an item -/

/-- What `item` reads, `item'` reads from the same text, up to a relation. -/
def Follows (item : Scan ε α) (item' : Scan ε' β) (R : α → β → Prop) : Prop :=
  ∀ ⦃t left : Text⦄ ⦃x : α⦄, item t = .ok (x, left) → ∃ y, item' t = .ok (y, left) ∧ R x y

theorem Parted.follow {item' : Scan ε' β} {R : α → β → Prop} (follows : Follows item item' R)
    {t rest : Text} {xs : List α} (read : Parted item close t xs rest) :
    ∃ ys, Parted item' close t ys rest ∧ List.Forall₂ R xs ys := by
  induction read with
  | last head closed =>
      obtain ⟨y, head', related⟩ := follows head
      exact ⟨[y], .last head' closed, .cons related .nil⟩
  | more head parted tail ih =>
      obtain ⟨y, head', related⟩ := follows head
      obtain ⟨ys, tail', later⟩ := ih
      exact ⟨y :: ys, .more head' parted tail', .cons related later⟩

theorem items_follow {item' : Scan ε' β} {R : α → β → Prop} (closer : Closer close)
    (near : Local item) (apart : Apart item close) (near' : Local item')
    (apart' : Apart item' close) (follows : Follows item item' R) {unparted : Text → ε}
    (unparted' : Text → ε') {t rest : Text} {xs : List α}
    (read : items item close unparted t = .ok (xs, rest)) :
    ∃ ys, items item' close unparted' t = .ok (ys, rest) ∧ List.Forall₂ R xs ys := by
  simp only [items_eq_ok closer near' apart']
  rcases (items_eq_ok closer near apart).1 read with ⟨closed, rfl⟩ | read
  · exact ⟨[], .inl ⟨closed, rfl⟩, .nil⟩
  · obtain ⟨ys, read', related⟩ := read.follow follows
    exact ⟨ys, .inr read', related⟩

/-- Items read alike, or one of them fails in a way that both do not. -/
theorem items_error_or_eq {item' : Scan ε α} {unparted : Text → ε} {failure : ε}
    (either : ∀ t, item t = .error failure ∨ item t = item' t) (t : Text) :
    items item close unparted t = .error failure ∨
      items item close unparted t = items item' close unparted t := by
  have counted : ∀ fuel t, itemsWithin item close unparted fuel t = .error failure ∨
      itemsWithin item close unparted fuel t = itemsWithin item' close unparted fuel t := by
    intro fuel
    induction fuel with
    | zero => exact fun _ => .inr rfl
    | succ fuel ih =>
        intro t
        rw [itemsWithin, itemsWithin]
        rcases either t with failed | same
        · exact .inl (by rw [failed]; rfl)
        rw [← same]
        cases item t with
        | error e => exact .inr rfl
        | ok read =>
            simp only [bind, Except.bind]
            split
            · exact .inr rfl
            next c rest _ =>
              split
              · exact .inr rfl
              split
              · rcases ih (skipBlanks rest) with failed | same
                · exact .inl (by rw [failed])
                · exact .inr (by rw [same])
              · exact .inr rfl
  unfold items
  simp only
  split
  · exact counted _ _
  · split
    · exact .inr rfl
    · exact counted _ _

/-! ## Items without blanks -/

theorem parted_join (closer : Closer close) (near : Local item) {parts : List Text} {xs : List α}
    (each : List.Forall₂ (Takes item) parts xs) (some : parts ≠ []) (rest : Text) :
    Parted item close (Text.join "," parts ++ close :: rest) xs rest := by
  induction each with
  | nil => exact absurd rfl some
  | @cons s x parts xs takes each ih =>
      cases parts with
      | nil =>
          cases each
          refine .last (takes _ (Ends.cons closer.ends rest)) ?_
          exact skipBlanks_of_stops (stops_cons.2 closer.solid)
      | cons s' parts =>
          have later := ih (List.cons_ne_nil s' parts)
          have joined : Text.join "," (s :: s' :: parts) ++ close :: rest =
              s ++ .ofChar ',' :: (Text.join "," (s' :: parts) ++ close :: rest) := by
            rw [Text.join_cons_cons, List.append_assoc, List.append_assoc]
            rfl
          rw [joined]
          refine .more (takes _ (Ends.cons (by decide) _))
            (skipBlanks_of_stops (stops_cons.2 (by decide))) ?_
          rw [skipBlanks_of_stops (later.solid near)]
          exact later

/-- Items written with nothing but commas between them are read back. -/
theorem items_join (closer : Closer close) (near : Local item) (apart : Apart item close)
    {unparted : Text → ε} {parts : List Text} {xs : List α}
    (each : List.Forall₂ (Takes item) parts xs) (rest : Text) :
    items item close unparted (Text.join "," parts ++ close :: rest) = .ok (xs, rest) := by
  apply (items_eq_ok closer near apart).2
  cases parts with
  | nil =>
      cases each
      exact .inl ⟨skipBlanks_of_stops (stops_cons.2 closer.solid), rfl⟩
  | cons s parts =>
      have read := parted_join closer near each (List.cons_ne_nil s parts) rest
      rw [skipBlanks_of_stops (read.solid near)]
      exact .inr read

/-! ## The item that fails -/

/-- Items in front of `u` are read, each with a comma behind it. -/
inductive Reaches (item : Scan ε α) : Text → List α → Text → Prop where
  | here (t : Text) : Reaches item t [] t
  | next {t left behind u : Text} {x : α} {xs : List α} (head : item t = .ok (x, left))
      (parted : skipBlanks left = .ofChar ',' :: behind)
      (tail : Reaches item (skipBlanks behind) xs u) : Reaches item t (x :: xs) u

theorem Reaches.snoc {t u left behind : Text} {x : α} {xs : List α}
    (reached : Reaches item t xs u) (head : item u = .ok (x, left))
    (parted : skipBlanks left = .ofChar ',' :: behind) :
    Reaches item t (xs ++ [x]) (skipBlanks behind) := by
  induction reached with
  | here t => exact .next head parted (.here _)
  | next first parted' _ ih => exact .next first parted' (ih head)

/-- An item and its comma take two code points at least. -/
theorem Reaches.length_le (near : Local item) {t u : Text} {xs : List α}
    (reached : Reaches item t xs u) : 2 * xs.length ≤ t.length := by
  induction reached with
  | here t => exact Nat.zero_le _
  | @next t left behind u x xs head parted tail ih =>
      have shorter := near.length_lt head
      have blanks : (skipBlanks left).length ≤ left.length :=
        (List.dropWhile_sublist _).length_le
      have blanks' : (skipBlanks behind).length ≤ behind.length :=
        (List.dropWhile_sublist _).length_le
      rw [parted, List.length_cons] at blanks
      rw [List.length_cons]
      omega

theorem exists_reaches_of_error {unparted : Text → ε} {fuel : Nat} {t : Text} {e : ε}
    (failed : itemsWithin item close unparted fuel t = .error e) (other : ∀ u, e ≠ unparted u) :
    ∃ xs u, Reaches item t xs u ∧ item u = .error e := by
  induction fuel generalizing t with
  | zero => exact absurd (Except.error.inj failed).symm (other t)
  | succ fuel ih =>
      rw [itemsWithin, bind_eq_error] at failed
      rcases failed with here | ⟨⟨x, left⟩, head, failed⟩
      · exact ⟨[], t, .here t, here⟩
      simp only at failed
      split at failed
      · exact absurd (Except.error.inj failed).symm (other _)
      next c behind stands =>
        split at failed
        · cases failed
        split at failed
        next parted =>
          rcases bind_eq_error.1 failed with later | ⟨_, _, same⟩
          · obtain ⟨xs, u, reached, unread⟩ := ih later
            exact ⟨x :: xs, u, .next head (parted ▸ stands) reached, unread⟩
          · cases same
        · exact absurd (Except.error.inj failed).symm (other _)

theorem Reaches.itemsWithin_eq_error (closer : Closer close) {unparted : Text → ε} {fuel : Nat}
    {t u : Text} {xs : List α} {e : ε} (reached : Reaches item t xs u)
    (failed : item u = .error e) (few : xs.length < fuel) :
    itemsWithin item close unparted fuel t = .error e := by
  induction reached generalizing fuel with
  | here t =>
      cases fuel with
      | zero => simp at few
      | succ fuel =>
          rw [itemsWithin, failed]
          rfl
  | next head parted tail ih =>
      cases fuel with
      | zero => simp at few
      | succ fuel =>
          have later := ih failed (Nat.lt_of_succ_lt_succ few)
          rw [itemsWithin, head]
          simp only [bind, Except.bind, parted, if_neg (Ne.symm closer.noComma), if_true, later]

theorem itemsWithin_eq_error_iff (closer : Closer close) (near : Local item)
    {unparted : Text → ε} {fuel : Nat} {t : Text} {e : ε} (other : ∀ u, e ≠ unparted u)
    (enough : t.length < 2 * fuel) :
    itemsWithin item close unparted fuel t = .error e ↔
      ∃ xs u, Reaches item t xs u ∧ item u = .error e := by
  constructor
  · exact fun failed => exists_reaches_of_error failed other
  · rintro ⟨xs, u, reached, failed⟩
    have few := reached.length_le near
    exact reached.itemsWithin_eq_error closer failed (by omega)

/-- A fault that is neither missing commas nor met at the closing bracket is that of the first
item that cannot be read. -/
theorem items_eq_error (closer : Closer close) (near : Local item) (apart : Apart item close)
    {unparted : Text → ε} {t : Text} {e : ε} (other : ∀ u, e ≠ unparted u)
    (inside : ∀ rest, item (close :: rest) ≠ .error e) :
    items item close unparted t = .error e ↔
      ∃ xs u, Reaches item (skipBlanks t) xs u ∧ item u = .error e := by
  unfold items
  cases skipBlanks t with
  | nil => exact itemsWithin_eq_error_iff closer near other (by simp)
  | cons c rest =>
      simp only
      split
      next closed =>
        subst closed
        constructor
        · exact fun same => nomatch same
        · rintro ⟨xs, u, reached, failed⟩
          cases reached with
          | here => exact absurd failed (inside rest)
          | next head _ _ => exact absurd head (apart rest _)
      next =>
        have enough : (c :: rest).length < 2 * (rest.length + 1) := by
          rw [List.length_cons]
          omega
        exact itemsWithin_eq_error_iff closer near other enough

/-! ## Items of which one is rejected -/

/-- Where a text parts into items, no item is rejected. -/
theorem Parted.not_rejects (closer : Closer close) (near : Local item) {parts : List Text}
    (each : ∀ s ∈ parts, (∃ x, Takes item s x) ∨ Rejects item s) {rest left : Text} {xs : List α}
    (read : Parted item close (Text.join "," parts ++ close :: rest) xs left) :
    ∀ s ∈ parts, ¬ Rejects item s := by
  have first {t : Text} {xs : List α} (read : Parted item close t xs left) :
      ∃ found, item t = .ok found := by
    cases read with
    | last head _ => exact ⟨_, head⟩
    | more head _ _ => exact ⟨_, head⟩
  induction parts generalizing xs with
  | nil => simp
  | cons s parts ih =>
      obtain ⟨here, later⟩ := List.forall_mem_cons.1 each
      cases parts with
      | nil =>
          rw [List.forall_mem_singleton]
          intro rejected
          obtain ⟨found, head⟩ := first read
          exact rejected.never _ _ head
      | cons s' parts =>
          have joined : Text.join "," (s :: s' :: parts) ++ close :: rest =
              s ++ .ofChar ',' :: (Text.join "," (s' :: parts) ++ close :: rest) := by
            rw [Text.join_cons_cons, List.append_assoc, List.append_assoc]
            rfl
          have solid : Stops isBlank (Text.join "," (s' :: parts) ++ close :: rest) := by
            have begins : ∃ more, Text.join "," (s' :: parts) ++ close :: rest = s' ++ more := by
              cases parts with
              | nil => exact ⟨_, rfl⟩
              | cons s'' parts =>
                  rw [Text.join_cons_cons, List.append_assoc, List.append_assoc]
                  exact ⟨_, rfl⟩
            obtain ⟨more, begins⟩ := begins
            rw [begins]
            rcases later s' List.mem_cons_self with ⟨x, takes⟩ | rejected
            · exact (near.token takes).solid more
            · exact rejected.solid more
          rw [joined] at read
          have taken : ¬ Rejects item s := by
            intro rejected
            obtain ⟨found, head⟩ := first read
            exact rejected.never _ _ head
          refine List.forall_mem_cons.2 ⟨taken, ?_⟩
          rcases here with ⟨x, takes⟩ | rejected
          · have head := takes (.ofChar ',' :: (Text.join "," (s' :: parts) ++ close :: rest))
              (Ends.cons (by decide) _)
            cases read with
            | last head' closed =>
                rw [head] at head'
                obtain ⟨-, rfl⟩ := Prod.mk.inj (Except.ok.inj head')
                rw [skipBlanks_of_stops (stops_cons.2 (by decide))] at closed
                exact absurd (List.cons.inj closed).1.symm closer.noComma
            | more head' parted tail =>
                rw [head] at head'
                obtain ⟨-, rfl⟩ := Prod.mk.inj (Except.ok.inj head')
                rw [skipBlanks_of_stops (stops_cons.2 (by decide))] at parted
                obtain ⟨-, rfl⟩ := List.cons.inj parted
                rw [skipBlanks_of_stops solid] at tail
                exact ih later tail
          · exact absurd rejected taken

/-- One item that is rejected spoils all that stands between the brackets. -/
theorem items_ne_ok (closer : Closer close) (listed : close ∈ closers) (near : Local item)
    (apart : Apart item close) {unparted : Text → ε} {parts : List Text}
    (each : ∀ s ∈ parts, (∃ x, Takes item s x) ∨ Rejects item s)
    (bad : ∃ s ∈ parts, Rejects item s) (rest : Text) (read : List α × Text) :
    items item close unparted (Text.join "," parts ++ close :: rest) ≠ .ok read := by
  obtain ⟨xs, left⟩ := read
  intro found
  cases parts with
  | nil =>
      obtain ⟨s, mem, -⟩ := bad
      cases mem
  | cons s parts =>
      have begins : ∃ c more, Text.join "," (s :: parts) ++ close :: rest = c :: more ∧
          isBlank c = false ∧ c ≠ close := by
        have starts : ∃ c u, s = c :: u ∧ isBlank c = false ∧ c ≠ close := by
          rcases each s List.mem_cons_self with ⟨x, takes⟩ | rejected
          · obtain ⟨c, u, rfl, solid, -⟩ := (near.token takes).starts
            refine ⟨c, u, rfl, solid, ?_⟩
            rintro rfl
            have whole := takes.whole
            exact apart u _ whole
          · obtain ⟨c, u, rfl, solid, opens⟩ := rejected.starts
            refine ⟨c, u, rfl, solid, ?_⟩
            rintro rfl
            exact opens listed
        obtain ⟨c, u, rfl, solid, open'⟩ := starts
        cases parts with
        | nil => exact ⟨c, _, rfl, solid, open'⟩
        | cons s' parts => exact ⟨c, _, rfl, solid, open'⟩
      obtain ⟨c, more, shape, solid, notClosed⟩ := begins
      have noBlank : skipBlanks (Text.join "," (s :: parts) ++ close :: rest) =
          Text.join "," (s :: parts) ++ close :: rest := by
        rw [shape]
        exact skipBlanks_of_stops (stops_cons.2 solid)
      rcases (items_eq_ok closer near apart).1 found with ⟨closed, -⟩ | parted
      · rw [noBlank, shape] at closed
        exact notClosed (List.cons.inj closed).1
      · rw [noBlank] at parted
        obtain ⟨s, mem, rejected⟩ := bad
        exact parted.not_rejects closer near each s mem rejected

end

end BlockWire.Json
