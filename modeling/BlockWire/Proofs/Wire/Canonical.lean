/- # The canonical form of a JSON value

A value that was read is written again as the JSON value it was read from, but for three
liberties of spelling that reading grants: leading zeros in a number, capitals among hex
digits, and the order of keys. `canonical` takes these back where the type puts a number,
hex digits or an object, and touches nothing else. It looks at the type and the JSON value
alone: no value is read or written for it.

`toJson_eq_canonical` says that writing what was read is this form. A canonical form is
read as the value it came from, so it is its own canonical form, and two JSON values are
read as the same value exactly if their canonical forms are equal
(`written_in_canonical_form`).

One lemma a liberty, then one induction over types. -/
import BlockWire.Proofs.Wire.Writing

namespace BlockWire

set_option autoImplicit false

/-- A capital hex digit becomes small; every other character stays. -/
def CodePoint.lowerHex (c : CodePoint) : CodePoint :=
  if 0x41 ≤ c.val ∧ c.val ≤ 0x46 then .ofNat (c.val + 0x20) else c

/-- Digits with no zero in front of another digit. -/
def Text.withoutLeadingZeros : Text → Text
  | c :: d :: rest => if c = '0' then withoutLeadingZeros (d :: rest) else c :: d :: rest
  | digits => digits

namespace Wire

def canonicalNumber : Json → Json
  | .str digits => .str digits.withoutLeadingZeros
  | j => j

def canonicalHex : Json → Json
  | .str t => .str (t.map CodePoint.lowerHex)
  | j => j

def canonicalItems (each : Json → Json) : Json → Json
  | .arr items => .arr (items.map each)
  | j => j

def canonicalMembers (each : Keyed Json → Keyed Json) : Json → Json
  | .obj members => .obj (each members)
  | j => j

mutual

/-- A JSON value in the spelling that values of the type are written in. -/
def canonical : Ty → Json → Json
  | .uint _ => canonicalNumber
  | .boolean => id
  | .byteVector _ => canonicalHex
  | .byteList _ => canonicalHex
  | .bitvector _ => canonicalHex
  | .bitlist _ => canonicalHex
  | .vector element _ => if element.isByte then canonicalHex else canonicalItems (canonical element)
  | .list element _ => if element.isByte then canonicalHex else canonicalItems (canonical element)
  | .container _ fields => canonicalMembers (canonicalFields fields)
  | .shapeless _ => id

/-- The members that stand under the names of fields, in the order of the fields. -/
def canonicalFields : List (Text × Ty) → Keyed Json → Keyed Json
  | [], _ => []
  | (name, type) :: rest, members =>
      match Keyed.get? members name with
      | none => canonicalFields rest members
      | some j => (name, canonical type j) :: canonicalFields rest members

end

end Wire

/-! ## Hex digits -/

namespace Hex

theorem digit?_eq_some {c : CodePoint} {n : Nat} (value : digit? c = some n) :
    n < 16 ∧ digit n = c.lowerHex := by
  have point (m : Nat) (same : m = c.val) (valid : m < 0x110000) : CodePoint.ofNat m = c :=
    CodePoint.val_injective (by rw [CodePoint.val_ofNat valid, same])
  have bound := c.val_lt
  unfold digit? at value
  split at value
  next decimal =>
    obtain rfl := Option.some.inj value
    refine ⟨by omega, ?_⟩
    rw [digit, CodePoint.lowerHex, if_pos (by omega), if_neg (by omega)]
    exact point _ (by omega) (by omega)
  · split at value
    next capital =>
      obtain rfl := Option.some.inj value
      refine ⟨by omega, ?_⟩
      rw [digit, CodePoint.lowerHex, if_neg (by omega), if_pos capital]
      congr 1
      omega
    · split at value
      next small =>
        obtain rfl := Option.some.inj value
        refine ⟨by omega, ?_⟩
        rw [digit, CodePoint.lowerHex, if_neg (by omega), if_neg (by omega)]
        exact point _ (by omega) (by omega)
      · simp at value

/-- Octets are written in the small digits of what spelled them. -/
theorem Spells.encode_eq {digits : Text} {octets : Octets} (spelled : Spells digits octets) :
    encode octets = digits.map CodePoint.lowerHex := by
  induction spelled with
  | nil => rfl
  | @octet high low h l digits octets first second tail ih =>
      obtain ⟨small, high'⟩ := digit?_eq_some first
      obtain ⟨small', low'⟩ := digit?_eq_some second
      have octet : (UInt8.ofNat (h * 16 + l)).toNat = h * 16 + l := by
        rw [UInt8.toNat_ofNat']
        omega
      have parts (b : UInt8) : encode (b :: octets) =
          digit (b.toNat / 16) :: digit (b.toNat % 16) :: encode octets := rfl
      rw [parts, octet, ih, show (h * 16 + l) / 16 = h by omega,
        show (h * 16 + l) % 16 = l by omega, high', low', List.map_cons, List.map_cons]

end Hex

namespace Wire

theorem hexText_of_spells {digits : Text} {octets : Octets} (spelled : Hex.Spells digits octets) :
    hexText octets = canonicalHex (.str (hexMark ++ digits)) := by
  have mark : hexMark.map CodePoint.lowerHex = hexMark := by decide
  rw [hexText, canonicalHex, List.map_append, mark, spelled.encode_eq]

end Wire

/-! ## Decimal digits -/

namespace Text

theorem ofNat_digit {c : CodePoint} (digit : c.isDigit = true) : ofNat (c.val - 0x30) = [c] := by
  simp only [CodePoint.isDigit, Bool.and_eq_true, decide_eq_true_eq] at digit
  have small : c.val - 0x30 < 10 := by omega
  have same : CodePoint.ofChar (Nat.digitChar (c.val - 0x30)) = c := by
    apply CodePoint.val_injective
    change (Nat.digitChar (c.val - 0x30)).toNat = c.val
    rw [Nat.toNat_digitChar_of_lt_ten small]
    omega
  rw [ofNat, Nat.toDigits_of_lt_base small, List.map_singleton, same]

theorem digitsValue_concat (digits : Text) (c : CodePoint) :
    digitsValue (digits ++ [c]) = digitsValue digits * 10 + (c.val - 0x30) := by
  rw [digitsValue, List.foldl_append]
  rfl

theorem ofNat_digitsValue_singleton {c : CodePoint} (digit : c.isDigit = true) :
    ofNat (digitsValue [c]) = [c] := by
  have worth : digitsValue [c] = c.val - 0x30 := Nat.zero_add _
  rw [worth, ofNat_digit digit]

theorem ofNat_append_digit {n : Nat} (positive : 0 < n) {c : CodePoint}
    (digit : c.isDigit = true) : ofNat (n * 10 + (c.val - 0x30)) = ofNat n ++ [c] := by
  have small : c.val - 0x30 < 10 := by
    simp only [CodePoint.isDigit, Bool.and_eq_true, decide_eq_true_eq] at digit
    omega
  rw [← ofNat_digit digit, ofNat, ofNat, ofNat, ← List.map_append, Nat.mul_comm n 10,
    Nat.toDigits_append_toDigits (by decide) positive small]

/-- Digits that do not begin with a zero are those of their value. -/
theorem ofNat_digitsValue {c : CodePoint} {rest : Text} (nonzero : c ≠ '0')
    (decimal : ∀ d ∈ c :: rest, d.isDigit = true) :
    ofNat (digitsValue (c :: rest)) = c :: rest := by
  have first := decimal c List.mem_cons_self
  induction rest using List.reverseRecOn with
  | nil => exact ofNat_digitsValue_singleton first
  | append_singleton front d ih =>
      have earlier : ∀ e ∈ c :: front, e.isDigit = true := by
        intro e mem
        apply decimal
        rw [← List.cons_append]
        exact List.mem_append_left _ mem
      have last : d.isDigit = true := decimal d (by simp)
      have positive : 0 < digitsValue (c :: front) :=
        Nat.lt_of_lt_of_le (Nat.pow_pos (by decide)) (pow_le_digitsValue first nonzero)
      rw [← List.cons_append, digitsValue_concat, ofNat_append_digit positive last, ih earlier]

/-- A number is written in the digits that spelled it, without the zeros in front. -/
theorem ofNat_digitsValue_eq {digits : Text} (nonempty : digits ≠ [])
    (decimal : ∀ c ∈ digits, c.isDigit = true) :
    ofNat digits.digitsValue = digits.withoutLeadingZeros := by
  fun_induction withoutLeadingZeros digits with
  | case1 d rest ih =>
      have same : digitsValue (CodePoint.ofChar '0' :: d :: rest) = digitsValue (d :: rest) := rfl
      rw [same]
      exact ih (List.cons_ne_nil _ _) fun c mem => decimal c (List.mem_cons_of_mem _ mem)
  | case2 c d rest nonzero => exact ofNat_digitsValue nonzero decimal
  | case3 digits short =>
      match digits, nonempty with
      | [c], _ => exact ofNat_digitsValue_singleton (decimal c List.mem_cons_self)
      | c :: d :: rest, _ => exact absurd rfl (short c d rest)

end Text

/-! ## Bitfields -/

namespace Wire

theorem encodeVector_below {octets : Octets} {length : Nat}
    (exact : octets.length = (length + 7) / 8)
    (clear : ∀ i, length ≤ i → Bits.bitAt octets i = false) :
    Bits.encodeVector (Bits.below octets length) = octets := by
  rw [← Bits.decode_eq_below (by omega)]
  exact Bits.encodeVector_decode exact clear

theorem encodeList_below {octets : Octets} {k : Nat} {last : UInt8}
    (ends : octets.getLast? = some last) (nonzero : last ≠ 0)
    (delimiter : Bits.HighestAt octets k) :
    Bits.encodeList (Bits.below octets k) = octets := by
  rw [← Bits.decode_eq_below delimiter.le]
  exact Bits.encodeList_decode delimiter (delimiter.length_eq ends nonzero)

/-! ## Arrays and objects -/

theorem itemsToJson_of_denotes {element : Ty} {items : List Json} {values : List Value}
    (written : ∀ j v, Denotes element j v → toJson v = canonical element j)
    (each : DenotesEach element items values) :
    itemsToJson values = items.map (canonical element) := by
  induction items generalizing values with
  | nil =>
      cases each
      rfl
  | cons j rest ih =>
      cases each with
      | cons head tail => rw [itemsToJson, written _ _ head, ih tail, List.map_cons]

theorem fieldsToJson_of_denotes {fields : List (Text × Ty)} {members : Keyed Json}
    {values : List (Text × Value)}
    (written : ∀ field ∈ fields, ∀ j v, Denotes field.2 j v → toJson v = canonical field.2 j)
    (each : DenotesFields fields members values) :
    fieldsToJson values = canonicalFields fields members := by
  induction fields generalizing values with
  | nil =>
      cases each
      rfl
  | cons field rest ih =>
      obtain ⟨here, later⟩ := List.forall_mem_cons.1 written
      cases each with
      | @cons name type _ _ j v _ found head tail =>
          rw [fieldsToJson, here _ _ head, ih later tail, canonicalFields, found]

/-! ## Every type -/

/-- What denotes a value is written again in its canonical form. -/
theorem toJson_eq_canonical {type : Ty} {j : Json} {v : Value} (denoted : Denotes type j v) :
    toJson v = canonical type j := by
  induction type using Ty.induction generalizing j v with
  | uint bits =>
      cases denoted with
      | uint nonempty decimal _ =>
          rw [toJson, Text.ofNat_digitsValue_eq nonempty decimal]
          rfl
  | boolean =>
      cases denoted with
      | boolean b => rfl
  | byteVector length =>
      cases denoted with
      | byteVector spelled => exact hexText_of_spells spelled
  | byteList limit =>
      cases denoted with
      | byteList spelled => exact hexText_of_spells spelled
  | bitvector length =>
      cases denoted with
      | bitvector spelled exact clear =>
          rw [toJson, encodeVector_below exact clear]
          exact hexText_of_spells spelled
  | bitlist limit =>
      cases denoted with
      | bitlist spelled ends nonzero delimiter =>
          rw [toJson, encodeList_below ends nonzero delimiter]
          exact hexText_of_spells spelled
  | vector element length ih =>
      rw [canonical]
      cases denoted with
      | byteSequenceVector bytes spelled =>
          rw [if_pos bytes]
          exact hexText_of_spells spelled
      | vector notBytes _ each =>
          rw [if_neg (by simp [notBytes]), toJson, itemsToJson_of_denotes (fun _ _ => ih) each]
          rfl
  | list element limit ih =>
      rw [canonical]
      cases denoted with
      | byteSequenceList bytes spelled =>
          rw [if_pos bytes]
          exact hexText_of_spells spelled
      | list notBytes _ each =>
          rw [if_neg (by simp [notBytes]), toJson, itemsToJson_of_denotes (fun _ _ => ih) each]
          rfl
  | container name fields ih =>
      cases denoted with
      | container _ each =>
          rw [toJson, fieldsToJson_of_denotes (fun field mem _ _ => ih field mem) each]
          rfl
  | shapeless name => cases denoted

theorem fromJson_canonical {type : Ty} (supported : type.isSupported = true) {j : Json} {v : Value}
    (read : fromJson type j = .ok v) : fromJson type (canonical type j) = .ok v := by
  have denoted := (fromJson_eq_ok type j v).1 read
  rw [fromJson_eq_ok, ← toJson_eq_canonical denoted]
  exact denotes_toJson supported denoted.fits

/-- What is read is written in its canonical form, and that is read as the same value; values
are the same exactly if the canonical forms of what they were read from are. -/
theorem written_in_canonical_form (type : Ty) (supported : type.isSupported = true) :
    (∀ j v, fromJson type j = .ok v →
      toJson v = canonical type j ∧ fromJson type (canonical type j) = .ok v ∧
        canonical type (canonical type j) = canonical type j) ∧
    ∀ j j' v v', fromJson type j = .ok v → fromJson type j' = .ok v' →
      (v = v' ↔ canonical type j = canonical type j') := by
  have written {j : Json} {v : Value} (read : fromJson type j = .ok v) :
      toJson v = canonical type j := toJson_eq_canonical ((fromJson_eq_ok type j v).1 read)
  constructor
  · intro j v read
    have again := fromJson_canonical supported read
    exact ⟨written read, again, (written again).symm.trans (written read)⟩
  · intro j j' v v' read read'
    constructor
    · rintro rfl
      rw [← written read, ← written read']
    · intro same
      have again := fromJson_canonical supported read
      have again' := fromJson_canonical supported read'
      rw [same, again'] at again
      exact (Except.ok.inj again).symm

def lavishType : Ty :=
  .container "Lavish"
    [("slots", .vector (.uint 16) 2), ("bits", .bitlist 9), ("root", .byteVector 2)]

/-- Keys out of order, capital digits and leading zeros. -/
def lavish : Json :=
  .obj [("root", .str "0xABcd"), ("slots", .arr [.str "00", .str "0065535"]), ("bits", .str "0x0C")]

def plainLavish : Json :=
  .obj [("slots", .arr [.str "0", .str "65535"]), ("bits", .str "0x0c"), ("root", .str "0xabcd")]

def lavishValue : Value :=
  .record [("slots", .seq [.uint 0, .uint 65535]), ("bits", .bitlist [false, false, true]),
    ("root", .bytes [0xAB, 0xCD])]

theorem written_in_canonical_form_lavish :
    lavishType.isSupported = true ∧ fromJson lavishType lavish = .ok lavishValue ∧
      toJson lavishValue = plainLavish ∧ fromJson lavishType plainLavish = .ok lavishValue ∧
      canonical lavishType plainLavish = plainLavish := by
  have supported : lavishType.isSupported = true := by decide +kernel
  have read : fromJson lavishType lavish = .ok lavishValue := by rfl
  have form : canonical lavishType lavish = plainLavish := by rfl
  obtain ⟨written, again, idem⟩ := (written_in_canonical_form lavishType supported).1 _ _ read
  rw [form] at written again idem
  exact ⟨supported, read, written, again, idem⟩

end Wire

end BlockWire
