/- # Reading with every partial operation in sight

Reading values is total, since each operation that does not always have an answer stands
behind a check that settles whether it has. Here the same readings are made once more in
the order of their checks, with each such operation as a step that can break off
(`Breach`): hex digits as octets, decimal digits as a whole number, the last octet, the
octets of a bitfield, a member by its key, a type with no JSON shape, and making a value,
which refuses what does not fit its type (`make`).

`fromJson_eq` says that at supported types, whose numbers have no more digits than can be
read at once (`Ty.isNarrow`), this comes to the reading itself: whatever the JSON value, no
operation breaks off, and what is raised are the mismatches alone. A value is always made
last, so one lemma (`present_eq`) serves every kind of type. -/
import BlockWire.Proofs.Number.Reading
import BlockWire.Proofs.Ssz.Fitting
import BlockWire.Proofs.Wire.Codecs

namespace BlockWire

set_option autoImplicit false

/-- An operation that has no answer. -/
inductive Breach where
  | octets
  | wholeNumber
  | lastOctet
  | member (key : Text)
  | making (type : Text)
  | unsupported (type : Text)
  | entry
  | ascii
  | surrogate

/-- How a step ends that does not go on: with an error for its caller, or broken off. -/
inductive Halt (ε : Type) where
  | raised (e : ε)
  | broken (breach : Breach)

namespace Halt

def map {ε ε' : Type} (f : ε → ε') : Halt ε → Halt ε'
  | .raised e => .raised (f e)
  | .broken breach => .broken breach

/-- A refusal of a type is no error that callers expect. -/
def ofRefusal : Refusal → Halt Mismatch
  | .mismatch m => .raised m
  | .unsupported type => .broken (.unsupported type)

theorem map_within (step : Step) (r : Refusal) :
    (ofRefusal r).map (fun m => m.within step) = ofRefusal (r.within step) := by
  cases r <;> rfl

end Halt

namespace Guarded

/-! ## Steps -/

section

variable {ε α β : Type}

def raise (e : ε) : Except (Halt ε) α := .error (.raised e)

/-- An operation that may have no answer. -/
def attempt (breach : Breach) : Option α → Except (Halt ε) α
  | some a => .ok a
  | none => .error (.broken breach)

/-- A value of a type, which has to fit it. -/
def make (type : Ty) (v : Value) : Except (Halt ε) Value :=
  if Value.isFit type v then .ok v else .error (.broken (.making type.name))

theorem attempt_some (breach : Breach) (a : α) :
    (attempt breach (some a) : Except (Halt ε) α) = .ok a := rfl

theorem make_of_fits {type : Ty} {v : Value} (fits : Value.Fits type v) :
    (make type v : Except (Halt ε) Value) = .ok v := if_pos (Value.isFit_iff.2 fits)

end

def mismatch {α : Type} (reason : Reason) : Except (Halt Mismatch) α := raise (.invalid reason)

def within {α : Type} (step : Step) (x : Except (Halt Mismatch) α) : Except (Halt Mismatch) α :=
  x.mapError (Halt.map fun m => m.within step)

/-- A reading in which nothing can break off but for its type. -/
def lift {α : Type} (x : Except Refusal α) : Except (Halt Mismatch) α := x.mapError .ofRefusal

section

variable {α β : Type}

theorem lift_ok (a : α) : lift (.ok a) = .ok a := rfl

theorem lift_bind (x : Except Refusal α) (f : α → Except Refusal β) :
    lift (x >>= f) = lift x >>= fun a => lift (f a) := by cases x <;> rfl

theorem lift_ite (cond : Prop) [Decidable cond] (yes no : Except Refusal α) :
    lift (if cond then yes else no) = if cond then lift yes else lift no := by
  split <;> rfl

theorem lift_map (f : α → β) (x : Except Refusal α) : lift (f <$> x) = f <$> lift x := by
  cases x <;> rfl

theorem within_lift (step : Step) (x : Except Refusal α) :
    within step (lift x) = lift (x.mapError (.within step)) := by
  cases x with
  | ok a => rfl
  | error r => exact congrArg Except.error (Halt.map_within step r)

end

/-! ## Strings -/

def fromHex : Json → Except (Halt Mismatch) Octets
  | .str t =>
      match Text.after? Wire.hexMark t with
      | none => mismatch .hexMark
      | some digits =>
          if digits.length % 2 ≠ 0 then mismatch .hexOdd
          else if !digits.all Hex.isDigit then mismatch .hexDigits
          else attempt .octets (Hex.decode digits)
  | j => mismatch (.notHex j.kind)

def exactBytes (length : Nat) (j : Json) : Except (Halt Mismatch) Octets := do
  let octets ← fromHex j
  if octets.length ≠ length then mismatch (.byteCount length octets.length) else .ok octets

def bytesWithin (limit : Nat) (j : Json) : Except (Halt Mismatch) Octets := do
  let octets ← fromHex j
  if limit < octets.length then mismatch (.tooManyBytes octets.length limit) else .ok octets

def uintFromJson (bits : Nat) : Json → Except (Halt Mismatch) Nat
  | .str t =>
      if Wire.isDecimal t then
        let digits := Wire.significant t
        if Wire.digitBound bits < digits.length then
          mismatch (.tooManyDigits digits.length (Ty.uint bits).name)
        else do
          let n ← attempt .wholeNumber (Numeral.readWhole 10 digits).toOption
          if bits < Bits.bitLength n.natAbs then
            mismatch (.outOfRange digits (Ty.uint bits).name)
          else attempt .wholeNumber n.toNat?
      else mismatch (.notDecimal (.str t))
  | j => mismatch (.notDecimal j)

/-! ## Bitfields -/

/-- Bits from the octets they are written as, and from no others. -/
def vectorFromOctets? (length : Nat) (octets : Octets) : Option (List Bool) :=
  let bits := Bits.decode length octets
  if bits.length = length ∧ Bits.encodeVector bits = octets then some bits else none

def listFromOctets? (length : Nat) (octets : Octets) : Option (List Bool) :=
  let bits := Bits.decode length octets
  if bits.length = length ∧ Bits.encodeList bits = octets then some bits else none

/-- Whether the last octet holds a set bit behind `length` bits; it is looked at only where
they fill it in part. -/
def holdsBeyond (length : Nat) (octets : Octets) : Except (Halt Mismatch) Bool :=
  if length % 8 = 0 then .ok false
  else do
    let last ← attempt .lastOctet octets.getLast?
    .ok (last.toNat >>> (length % 8) != 0)

def bitvectorFromJson (length : Nat) (j : Json) : Except (Halt Mismatch) (List Bool) := do
  let octets ← exactBytes (Bits.octetCount length) j
  let beyond ← holdsBeyond length octets
  if beyond then mismatch (.bitsBeyond length)
  else attempt (.making (Ty.bitvector length).name) (vectorFromOctets? length octets)

def bitlistFromJson (limit : Nat) (j : Json) : Except (Halt Mismatch) (List Bool) := do
  let octets ← fromHex j
  if octets.isEmpty then mismatch .noDelimiter
  else do
    let last ← attempt .lastOctet octets.getLast?
    if last = 0 then mismatch .noDelimiter
    else
      let length := (octets.length - 1) * 8 + Bits.bitLength last.toNat - 1
      if limit < length then mismatch (.tooManyBits length limit)
      else attempt (.making (Ty.bitlist limit).name) (listFromOctets? length octets)

/-! ## Arrays and objects -/

section

variable {α : Type}

def entriesFrom (read : Json → Except (Halt Mismatch) α) :
    Nat → List Json → Except (Halt Mismatch) (List α)
  | _, [] => .ok []
  | i, j :: rest => do
      let entry ← within (.index i) (read j)
      let entries ← entriesFrom read (i + 1) rest
      .ok (entry :: entries)

def exactEntries (length : Nat) (read : Json → Except (Halt Mismatch) α) (j : Json) :
    Except (Halt Mismatch) (List α) := do
  let items ← lift (Wire.arrayFromJson j)
  if items.length ≠ length then mismatch (.elementCount length items.length)
  else entriesFrom read 0 items

def entriesWithin (limit : Nat) (read : Json → Except (Halt Mismatch) α) (j : Json) :
    Except (Halt Mismatch) (List α) := do
  let items ← lift (Wire.arrayFromJson j)
  if limit < items.length then mismatch (.tooManyElements items.length limit)
  else entriesFrom read 0 items

def present (read : Json → Except (Halt Mismatch) α) : Json → Except (Halt Mismatch) α
  | .null => raise (.missing .valueMissing [])
  | j => read j

end

/-! ## Values -/

mutual

def fromJson : Ty → Json → Except (Halt Mismatch) Value
  | .uint bits => present fun j => do make (.uint bits) (.uint (← uintFromJson bits j))
  | .boolean => present fun j => do make .boolean (.boolean (← lift (Wire.boolFromJson j)))
  | .byteVector length =>
      present fun j => do make (.byteVector length) (.bytes (← exactBytes length j))
  | .byteList limit => present fun j => do make (.byteList limit) (.bytes (← bytesWithin limit j))
  | .bitvector length =>
      present fun j => do make (.bitvector length) (.bitvector (← bitvectorFromJson length j))
  | .bitlist limit =>
      present fun j => do make (.bitlist limit) (.bitlist (← bitlistFromJson limit j))
  | .vector element length =>
      present fun j =>
        if element.isByte then do make (.vector element length) (.bytes (← exactBytes length j))
        else do
          make (.vector element length) (.seq (← exactEntries length (fromJson element) j))
  | .list element limit =>
      present fun j =>
        if element.isByte then do make (.list element limit) (.bytes (← bytesWithin limit j))
        else do make (.list element limit) (.seq (← entriesWithin limit (fromJson element) j))
  | .container name fields =>
      present fun j => do
        let members ← lift (Wire.declaredMembers (fields.map Prod.fst) j)
        make (.container name fields) (.record (← fieldsFromJson fields members))
  | .shapeless name => present fun _ => .error (.broken (.unsupported name))

def fieldsFromJson :
    List (Text × Ty) → Keyed Json → Except (Halt Mismatch) (List (Text × Value))
  | [], _ => .ok []
  | (name, type) :: rest, members =>
      if !(Keyed.keys members).contains name then raise (.missing .fieldMissing [.field name])
      else do
        let j ← attempt (.member name) (Keyed.get? members name)
        let value ← within (.field name) (fromJson type j)
        let values ← fieldsFromJson rest members
        .ok ((name, value) :: values)

end

end Guarded

namespace Ty

mutual

/-- Every number in the type has no more digits than can be read at once. -/
def isNarrow : Ty → Bool
  | .uint bits => decide (Wire.digitBound bits ≤ Text.digitLimit)
  | .vector element _ => element.isNarrow
  | .list element _ => element.isNarrow
  | .container _ fields => fieldsNarrow fields
  | _ => true

def fieldsNarrow : List (Text × Ty) → Bool
  | [] => true
  | (_, type) :: rest => type.isNarrow && fieldsNarrow rest

end

theorem fieldsNarrow_iff {fields : List (Text × Ty)} :
    fieldsNarrow fields = true ↔ ∀ field ∈ fields, field.2.isNarrow = true := by
  induction fields with
  | nil => simp [fieldsNarrow]
  | cons field rest ih =>
      obtain ⟨name, type⟩ := field
      rw [fieldsNarrow, Bool.and_eq_true, ih, List.forall_mem_cons]

end Ty

namespace Guarded

/-! ## Checked strings have an answer -/

theorem fromHex_eq (j : Json) : fromHex j = lift (Wire.fromHex j) := by
  cases j with
  | str t =>
      rw [fromHex, Wire.fromHex]
      cases Text.after? Wire.hexMark t with
      | none => rfl
      | some digits =>
          simp only [lift_ite]
          refine ite_congr rfl (fun _ => rfl) fun even => ?_
          have unspelled := Hex.decode_eq_none_iff (Decidable.not_not.1 even)
          cases decoded : Hex.decode digits with
          | none =>
              rw [unspelled.1 decoded]
              rfl
          | some octets =>
              have all : digits.all Hex.isDigit = true := by
                rw [← Bool.not_eq_false]
                intro other
                rw [unspelled.2 other] at decoded
                simp at decoded
              rw [all]
              rfl
  | _ => rfl

theorem exactBytes_eq (length : Nat) (j : Json) :
    exactBytes length j = lift (Wire.exactBytes length j) := by
  rw [exactBytes, fromHex_eq, Wire.exactBytes, lift_bind]
  simp only [lift_ite]
  rfl

theorem bytesWithin_eq (limit : Nat) (j : Json) :
    bytesWithin limit j = lift (Wire.bytesWithin limit j) := by
  rw [bytesWithin, fromHex_eq, Wire.bytesWithin, lift_bind]
  simp only [lift_ite]
  rfl

theorem lt_bitLength_iff (bits n : Nat) : bits < Bits.bitLength n ↔ Nat.pow 2 bits ≤ n := by
  by_cases zero : n = 0
  · have pos : 0 < Nat.pow 2 bits := Nat.pow_pos (by decide)
    rw [Bits.bitLength, if_pos zero]
    omega
  · rw [Bits.bitLength, if_neg zero, Nat.lt_succ_iff]
    exact Nat.le_log2 zero

theorem uintFromJson_eq {bits : Nat} (narrow : Wire.digitBound bits ≤ Text.digitLimit)
    (j : Json) : uintFromJson bits j = lift (Wire.uintFromJson bits j) := by
  cases j with
  | str t =>
      rw [uintFromJson, Wire.uintFromJson, lift_ite]
      refine ite_congr rfl (fun decimal => ?_) fun _ => rfl
      simp only [lift_ite]
      refine ite_congr rfl (fun _ => rfl) fun few => ?_
      obtain ⟨nonempty, digits⟩ := Wire.isDecimal_iff.1 (Wire.isDecimal_significant decimal)
      have short : (Wire.significant t).length ≤ Text.digitLimit :=
        Nat.le_trans (Nat.not_lt.1 few) narrow
      rw [Numeral.readWhole_ten nonempty digits short]
      refine ite_congr (propext (lt_bitLength_iff bits _)) (fun _ => rfl) fun _ => rfl
  | _ => rfl

/-! ## Checked octets have bits -/

theorem vectorFromOctets?_eq {length : Nat} {octets : Octets}
    (exact : octets.length = Bits.octetCount length)
    (clear : ∀ i, length ≤ i → Bits.bitAt octets i = false) :
    vectorFromOctets? length octets = some (Bits.decode length octets) := by
  have room : length ≤ 8 * octets.length := by
    rw [exact, Bits.octetCount]
    omega
  have decoded : (Bits.decode length octets).length = length := by
    rw [Bits.decode_eq_below room, Bits.length_below]
  exact if_pos ⟨decoded, Bits.encodeVector_decode exact clear⟩

theorem listFromOctets?_eq {length : Nat} {octets : Octets} (highest : Bits.HighestAt octets length)
    (size : octets.length = length / 8 + 1) :
    listFromOctets? length octets = some (Bits.decode length octets) := by
  have decoded : (Bits.decode length octets).length = length := by
    rw [Bits.decode_eq_below highest.le, Bits.length_below]
  exact if_pos ⟨decoded, Bits.encodeList_decode highest size⟩

/-- There is a last octet where it is looked at. -/
theorem holdsBeyond_eq {length : Nat} {octets : Octets}
    (exact : octets.length = Bits.octetCount length) :
    holdsBeyond length octets = .ok (Bits.holdsBeyond length octets) := by
  unfold holdsBeyond Bits.holdsBeyond
  by_cases whole : length % 8 = 0
  · rw [if_pos whole, whole]
    rfl
  · have nonempty : octets ≠ [] := by
      rintro rfl
      rw [List.length_nil, Bits.octetCount] at exact
      omega
    rw [if_neg whole, List.getLast?_eq_some_getLast nonempty, attempt_some]
    have some : (length % 8 != 0) = true := bne_iff_ne.2 whole
    rw [some, List.getLastD_eq_getLast?, List.getLast?_eq_some_getLast nonempty, Option.getD_some,
      Bool.true_and]
    rfl

theorem bitvectorFromJson_eq (length : Nat) (j : Json) :
    bitvectorFromJson length j = lift (Wire.bitvectorFromJson length j) := by
  rw [bitvectorFromJson, exactBytes_eq, Wire.bitvectorFromJson]
  cases read : Wire.exactBytes (Bits.octetCount length) j with
  | error r => rfl
  | ok octets =>
      have exact := (Wire.exactBytes_eq_ok.1 read).2
      change (holdsBeyond length octets >>= _) = lift (if _ then _ else _)
      rw [holdsBeyond_eq exact, lift_ite]
      refine ite_congr rfl (fun _ => rfl) fun within => ?_
      have clear := (Bits.holdsBeyond_eq_false exact).1 (Bool.not_eq_true _ ▸ within)
      rw [vectorFromOctets?_eq exact clear]
      rfl

theorem bitlistFromJson_eq (limit : Nat) (j : Json) :
    bitlistFromJson limit j = lift (Wire.bitlistFromJson limit j) := by
  rw [bitlistFromJson, fromHex_eq, Wire.bitlistFromJson]
  cases Wire.fromHex j with
  | error r => rfl
  | ok octets =>
      by_cases empty : octets = []
      · subst empty
        rfl
      have ends := List.getLast?_eq_some_getLast empty
      generalize octets.getLast empty = last at ends
      have measured : Bits.listLength? octets = if last = 0 then none
          else some ((octets.length - 1) * 8 + Bits.bitLength last.toNat - 1) := by
        unfold Bits.listLength?
        rw [ends]
      have present : ¬ octets.isEmpty = true := by simpa using empty
      rw [lift_ok]
      simp only [bind, Except.bind, if_neg present, ends, attempt_some, measured]
      by_cases zero : last = 0
      · rw [if_pos zero, if_pos zero]
        rfl
      rw [if_neg zero, if_neg zero]
      simp only [lift_ite]
      refine ite_congr rfl (fun _ => rfl) fun _ => ?_
      have highest := Bits.highestAt_of_getLast? ends zero
      rw [listFromOctets?_eq highest (highest.length_eq ends zero)]
      rfl

/-! ## Each reading comes to the first -/

theorem entriesFrom_eq {α : Type} {read : Json → Except (Halt Mismatch) α}
    {plain : Json → Except Refusal α} (same : ∀ j, read j = lift (plain j)) (i : Nat)
    (items : List Json) : entriesFrom read i items = lift (Wire.entriesFrom plain i items) := by
  induction items generalizing i with
  | nil => rfl
  | cons j rest ih =>
      rw [entriesFrom, Wire.entriesFrom, same, within_lift, ih, lift_bind]
      simp only [lift_bind]
      rfl

theorem exactEntries_eq {α : Type} {read : Json → Except (Halt Mismatch) α}
    {plain : Json → Except Refusal α} (same : ∀ j, read j = lift (plain j)) (length : Nat)
    (j : Json) : exactEntries length read j = lift (Wire.exactEntries length plain j) := by
  rw [exactEntries, Wire.exactEntries, lift_bind]
  simp only [lift_ite, entriesFrom_eq same]
  rfl

theorem entriesWithin_eq {α : Type} {read : Json → Except (Halt Mismatch) α}
    {plain : Json → Except Refusal α} (same : ∀ j, read j = lift (plain j)) (limit : Nat)
    (j : Json) : entriesWithin limit read j = lift (Wire.entriesWithin limit plain j) := by
  rw [entriesWithin, Wire.entriesWithin, lift_bind]
  simp only [lift_ite, entriesFrom_eq same]
  rfl

theorem fieldsFromJson_eq {fields : List (Text × Ty)} {members : Keyed Json}
    (same : ∀ field ∈ fields, ∀ j, fromJson field.2 j = lift (Wire.fromJson field.2 j)) :
    fieldsFromJson fields members = lift (Wire.fieldsFromJson fields members) := by
  induction fields with
  | nil => rfl
  | cons field rest ih =>
      obtain ⟨name, type⟩ := field
      obtain ⟨here, later⟩ := List.forall_mem_cons.1 same
      rw [fieldsFromJson, Wire.fieldsFromJson]
      cases found : Keyed.get? members name with
      | none =>
          have absent : name ∉ Keyed.keys members := (Keyed.get?_eq_none_iff _ _).1 found
          rw [if_pos (by simpa using absent)]
          rfl
      | some j =>
          have there := Keyed.mem_keys_of_get? found
          rw [if_neg (by simpa using there), attempt_some]
          have value : within (.field name) (fromJson type j) =
              lift ((Wire.fromJson type j).mapError (.within (.field name))) := by
            rw [← within_lift]
            exact congrArg _ (here j)
          simp only [lift_bind, ← value, ← ih later]
          rfl

/-- A value that is made from what was read fits, so making it refuses nothing. -/
theorem present_eq {α : Type} {type : Ty} {f : α → Value} {plain : Json → Except Refusal α}
    (whole : ∀ j, Wire.fromJson type j = Wire.present (fun j => f <$> plain j) j)
    {read : Json → Except (Halt Mismatch) α} (same : ∀ j, read j = lift (plain j)) (j : Json) :
    present (fun j => read j >>= fun a => make type (f a)) j = lift (Wire.fromJson type j) := by
  have here := whole j
  by_cases null : j = .null
  · rw [here, null]
    rfl
  have shown : Wire.present (fun j => f <$> plain j) j = f <$> plain j := by
    cases j with
    | null => exact absurd rfl null
    | _ => rfl
  have made : present (fun j => read j >>= fun a => make type (f a)) j =
      read j >>= fun a => make type (f a) := by
    cases j with
    | null => exact absurd rfl null
    | _ => rfl
  rw [made, same, here, shown]
  rw [shown] at here
  cases found : plain j with
  | error r => rfl
  | ok a =>
      rw [found] at here
      have fits := ((Wire.fromJson_eq_ok _ _ _).1 here).fits
      exact make_of_fits fits

theorem fromJson_eq {type : Ty} (supported : type.isSupported = true)
    (narrow : type.isNarrow = true) (j : Json) :
    fromJson type j = lift (Wire.fromJson type j) := by
  induction type using Ty.induction generalizing j with
  | uint bits =>
      exact present_eq (fun _ => rfl) (uintFromJson_eq (of_decide_eq_true narrow)) j
  | boolean => exact present_eq (fun _ => rfl) (fun _ => rfl) j
  | byteVector length => exact present_eq (fun _ => rfl) (exactBytes_eq length) j
  | byteList limit => exact present_eq (fun _ => rfl) (bytesWithin_eq limit) j
  | bitvector length => exact present_eq (fun _ => rfl) (bitvectorFromJson_eq length) j
  | bitlist limit => exact present_eq (fun _ => rfl) (bitlistFromJson_eq limit) j
  | vector element length ih =>
      have same := exactEntries_eq (ih supported narrow) length
      by_cases bytes : element.isByte = true
      · rw [fromJson]
        simp only [if_pos bytes]
        refine present_eq (fun j => ?_) (exactBytes_eq length) j
        rw [Wire.fromJson]
        simp only [if_pos bytes]
      · rw [fromJson]
        simp only [if_neg bytes]
        refine present_eq (fun j => ?_) same j
        rw [Wire.fromJson]
        simp only [if_neg bytes]
  | list element limit ih =>
      have same := entriesWithin_eq (ih supported narrow) limit
      by_cases bytes : element.isByte = true
      · rw [fromJson]
        simp only [if_pos bytes]
        refine present_eq (fun j => ?_) (bytesWithin_eq limit) j
        rw [Wire.fromJson]
        simp only [if_pos bytes]
      · rw [fromJson]
        simp only [if_neg bytes]
        refine present_eq (fun j => ?_) same j
        rw [Wire.fromJson]
        simp only [if_neg bytes]
  | container name fields ih =>
      have inside := (Ty.isSupported_container.1 supported).2
      have each := Ty.fieldsNarrow_iff.1 narrow
      have same (members : Keyed Json) :
          fieldsFromJson fields members = lift (Wire.fieldsFromJson fields members) :=
        fieldsFromJson_eq fun field mem => ih field mem (inside field mem).2 (each field mem)
      have whole (j : Json) : Wire.fromJson (.container name fields) j =
          Wire.present (fun j => Value.record <$> (Wire.declaredMembers (fields.map Prod.fst) j >>=
            fun members => Wire.fieldsFromJson fields members)) j := by
        rw [Wire.fromJson]
        simp only [map_bind]
      have members (j : Json) : (lift (Wire.declaredMembers (fields.map Prod.fst) j) >>=
          fun members => fieldsFromJson fields members) =
            lift (Wire.declaredMembers (fields.map Prod.fst) j >>=
              fun members => Wire.fieldsFromJson fields members) := by
        rw [lift_bind]
        exact congrArg _ (funext same)
      have made := present_eq whole members j
      rw [fromJson]
      simpa only [bind_assoc] using made
  | shapeless name => simp [Ty.isSupported] at supported

/-! ## Codecs -/

/-- What a codec reads, nothing where it takes a null. -/
def entryFromJson (codec : Codec) (j : Json) : Except (Halt Mismatch) (Option Value) :=
  if codec.takesNull && Codec.isNull j then .ok none else some <$> fromJson codec.type j

def decode (codec : Codec) (d : Document) : Except (Halt Mismatch) (Option Value) := do
  let j ← lift (Codec.loadValue d)
  entryFromJson codec j

def listFromJson (codec : Codec) : Json → Except (Halt Mismatch) (List (Option Value))
  | .null => .ok []
  | j => do
      let items ← lift (Wire.arrayFromJson j)
      entriesFrom (entryFromJson codec) 0 items

def decodeList (codec : Codec) (d : Document) :
    Except (Halt Mismatch) (List (Option Value)) := do
  let j ← lift (Codec.loadValue d)
  listFromJson codec j

section

variable {codec : Codec} (supported : codec.type.isSupported = true)
  (narrow : codec.type.isNarrow = true)

include supported narrow

theorem entryFromJson_eq (j : Json) : entryFromJson codec j = lift (codec.fromJson j) := by
  rw [entryFromJson, Codec.fromJson, lift_ite, lift_map, fromJson_eq supported narrow]
  rfl

theorem decode_eq (d : Document) : decode codec d = lift (codec.decode d) := by
  rw [decode, Codec.decode, lift_bind]
  exact congrArg _ (funext (entryFromJson_eq supported narrow))

theorem listFromJson_eq (j : Json) : listFromJson codec j = lift (codec.listFromJson j) := by
  have entries := entriesFrom_eq (entryFromJson_eq supported narrow) 0
  cases j with
  | arr items => exact entries items
  | _ => rfl

theorem decodeList_eq (d : Document) : decodeList codec d = lift (codec.decodeList d) := by
  rw [decodeList, Codec.decodeList, lift_bind]
  exact congrArg _ (funext (listFromJson_eq supported narrow))

end

end Guarded

end BlockWire
