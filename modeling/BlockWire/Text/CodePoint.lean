/- # Text as code points

A document may name a surrogate by its escape alone, and no `Char` is one. Text
is therefore a list of code points, surrogates included; `String` holds only the
literals of this library and whatever text is known to be free of surrogates.

Octets are what a document is made of before it is read and after it is
written. -/
namespace BlockWire

set_option autoImplicit false

structure CodePoint where
  val : Nat
  val_lt : val < 0x110000 := by decide
deriving DecidableEq

abbrev Text := List CodePoint

abbrev Octets := List UInt8

namespace CodePoint

theorem val_injective {a b : CodePoint} (same : a.val = b.val) : a = b := by
  cases a
  cases b
  cases same
  rfl

def ofChar (c : Char) : CodePoint where
  val := c.toNat
  val_lt := by
    have valid := c.valid
    simp only [UInt32.isValidChar, Nat.isValidChar] at valid
    simp only [Char.toNat, UInt32.toNat] at *
    omega

instance : Coe Char CodePoint := ⟨ofChar⟩

/-- The byte order mark: U+FEFF. -/
def byteOrderMark : CodePoint := ⟨0xFEFF, by decide⟩

/-- What stands for octets that are no text: U+FFFD. -/
def replacement : CodePoint := ⟨0xFFFD, by decide⟩

/-- The code point of a number, U+FFFD when there is none. -/
def ofNat (n : Nat) : CodePoint :=
  if valid : n < 0x110000 then ⟨n, valid⟩ else replacement

@[simp] theorem val_ofNat {n : Nat} (valid : n < 0x110000) : (ofNat n).val = n := by
  simp [ofNat, valid]

@[simp] theorem ofNat_val (c : CodePoint) : ofNat c.val = c := by
  simp [ofNat, c.val_lt]

def isHighSurrogate (c : CodePoint) : Bool := 0xD800 ≤ c.val && c.val < 0xDC00

def isLowSurrogate (c : CodePoint) : Bool := 0xDC00 ≤ c.val && c.val < 0xE000

def isSurrogate (c : CodePoint) : Bool := 0xD800 ≤ c.val && c.val < 0xE000

/-- No character is a surrogate. -/
theorem isSurrogate_ofChar (c : Char) : (ofChar c).isSurrogate = false := by
  have valid := c.valid
  simp only [UInt32.isValidChar, Nat.isValidChar] at valid
  have same : (ofChar c).val = c.val.toNat := rfl
  simp only [isSurrogate, same, Bool.and_eq_false_iff, decide_eq_false_iff_not]
  omega

theorem isHighSurrogate_of_plain {c : CodePoint} (plain : c.isSurrogate = false) :
    c.isHighSurrogate = false := by
  simp only [isSurrogate, isHighSurrogate, Bool.and_eq_false_iff,
    decide_eq_false_iff_not] at plain ⊢
  omega

theorem isLowSurrogate_of_plain {c : CodePoint} (plain : c.isSurrogate = false) :
    c.isLowSurrogate = false := by
  simp only [isSurrogate, isLowSurrogate, Bool.and_eq_false_iff,
    decide_eq_false_iff_not] at plain ⊢
  omega

/-- The astral code point that a surrogate pair spells. -/
def ofPair (high low : CodePoint) : CodePoint :=
  ofNat (0x10000 + (high.val - 0xD800) * 0x400 + (low.val - 0xDC00))

/-- The surrogate pair that spells an astral code point. -/
def toPair (c : CodePoint) : CodePoint × CodePoint :=
  (ofNat (0xD800 + (c.val - 0x10000) / 0x400), ofNat (0xDC00 + (c.val - 0x10000) % 0x400))

theorem ofPair_toPair {c : CodePoint} (astral : 0x10000 ≤ c.val) :
    ofPair c.toPair.1 c.toPair.2 = c := by
  have bound := c.val_lt
  have high : 0xD800 + (c.val - 0x10000) / 0x400 < 0x110000 := by omega
  have low : 0xDC00 + (c.val - 0x10000) % 0x400 < 0x110000 := by omega
  apply val_injective
  simp only [ofPair, toPair, val_ofNat high, val_ofNat low]
  rw [val_ofNat (by omega)]
  omega

/-- What a pair spells lies beyond all surrogates. -/
theorem isSurrogate_ofPair (high low : CodePoint) : (ofPair high low).isSurrogate = false := by
  rw [ofPair, ofNat]
  split
  · simp only [isSurrogate, Bool.and_eq_false_iff, decide_eq_false_iff_not]
    omega
  · decide

theorem isHighSurrogate_toPair (c : CodePoint) : c.toPair.1.isHighSurrogate = true := by
  have bound := c.val_lt
  have high : 0xD800 + (c.val - 0x10000) / 0x400 < 0x110000 := by omega
  simp only [isHighSurrogate, toPair, val_ofNat high, Bool.and_eq_true, decide_eq_true_eq]
  omega

theorem isLowSurrogate_toPair (c : CodePoint) : c.toPair.2.isLowSurrogate = true := by
  have low : 0xDC00 + (c.val - 0x10000) % 0x400 < 0x110000 := by omega
  simp only [isLowSurrogate, toPair, val_ofNat low, Bool.and_eq_true, decide_eq_true_eq]
  omega

def isDigit (c : CodePoint) : Bool := 0x30 ≤ c.val && c.val ≤ 0x39

/-- A surrogate alone has no character and becomes U+FFFD. -/
def toChar (c : CodePoint) : Char :=
  if c.isSurrogate then Char.ofNat 0xFFFD else Char.ofNat c.val

end CodePoint

namespace Text

def ofString (s : String) : Text := s.toList.map .ofChar

instance : Coe String Text := ⟨ofString⟩

def toString (t : Text) : String := String.ofList (t.map CodePoint.toChar)

/-- What is left behind `word`, if the text begins with it. -/
def after? : Text → Text → Option Text
  | [], t => some t
  | _ :: _, [] => none
  | w :: word, c :: rest => if w = c then after? word rest else none

/-- A number in decimal. -/
def ofNat (n : Nat) : Text := (Nat.toDigits 10 n).map .ofChar

theorem ofNat_ne_nil (n : Nat) : ofNat n ≠ [] := by
  simp [ofNat, Nat.toDigits_ne_nil]

theorem isDigit_of_mem_ofNat {n : Nat} {c : CodePoint} (mem : c ∈ ofNat n) : c.isDigit = true := by
  obtain ⟨d, digits, rfl⟩ := List.mem_map.1 mem
  have digit := Nat.isDigit_of_mem_toDigits (by decide) (by decide) digits
  simp only [Char.isDigit, Bool.and_eq_true, decide_eq_true_eq] at digit
  have low : 0x30 ≤ (CodePoint.ofChar d).val := UInt32.le_iff_toNat_le.1 digit.1
  have high : (CodePoint.ofChar d).val ≤ 0x39 := UInt32.le_iff_toNat_le.1 digit.2
  simp [CodePoint.isDigit, low, high]

/-- How many digits a number has. -/
theorem length_ofNat_le_iff {n k : Nat} (pos : 0 < k) : (ofNat n).length ≤ k ↔ n < Nat.pow 10 k := by
  rw [ofNat, List.length_map]
  exact Nat.length_toDigits_le_iff (by decide) pos

def ofInt (n : Int) : Text :=
  if n < 0 then (CodePoint.ofChar '-') :: ofNat n.natAbs else ofNat n.natAbs

theorem ofInt_natCast (n : Nat) : ofInt n = ofNat n := by
  rw [ofInt, if_neg (by omega), Int.natAbs_natCast]

/-- A number in at least `width` decimal digits. -/
def padded (width n : Nat) : Text :=
  List.replicate (width - (ofNat n).length) (CodePoint.ofChar '0') ++ ofNat n

/-- The items with `separator` between each two neighbours. -/
def join {α : Type} (separator : List α) : List (List α) → List α
  | [] => []
  | [item] => item
  | item :: rest => item ++ separator ++ join separator rest

end Text

end BlockWire
