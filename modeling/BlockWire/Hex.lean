/- # Octets as hex digits

Two digits to an octet, the high half first. Reading takes either case, writing
uses the lower one, so writing after reading is the lower case of what was read, and
reading after writing gives the octets back (`decode_encode`). -/
import BlockWire.Text.CodePoint

namespace BlockWire.Hex

set_option autoImplicit false

def digit? (c : CodePoint) : Option Nat :=
  if 0x30 ≤ c.val ∧ c.val ≤ 0x39 then some (c.val - 0x30)
  else if 0x41 ≤ c.val ∧ c.val ≤ 0x46 then some (c.val - 0x41 + 10)
  else if 0x61 ≤ c.val ∧ c.val ≤ 0x66 then some (c.val - 0x61 + 10)
  else none

/-- The digit of a number below 16. -/
def digit (n : Nat) : CodePoint := .ofNat (if n < 10 then 0x30 + n else 0x61 + (n - 10))

def isDigit (c : CodePoint) : Bool := (digit? c).isSome

/-- The number that the digits spell, all of them being hex digits. -/
def value? : Text → Option Nat :=
  List.foldl (fun n c => do return (← n) * 16 + (← digit? c)) (some 0)

def decode : Text → Option Octets
  | [] => some []
  | [_] => none
  | high :: low :: rest => do
      let h ← digit? high
      let l ← digit? low
      return .ofNat (h * 16 + l) :: (← decode rest)

def encodeOctet (b : UInt8) : Text := [digit (b.toNat / 16), digit (b.toNat % 16)]

def encode (octets : Octets) : Text := octets.flatMap encodeOctet

theorem digit?_digit : ∀ n < 16, digit? (digit n) = some n := by decide

theorem decode_encode (octets : Octets) : decode (encode octets) = some octets := by
  induction octets with
  | nil => rfl
  | cons b rest ih =>
      have bound := b.toNat_lt
      have high : b.toNat / 16 < 16 := by omega
      have low : b.toNat % 16 < 16 := by omega
      have octet : UInt8.ofNat (b.toNat / 16 * 16 + b.toNat % 16) = b := by
        rw [Nat.div_add_mod', UInt8.ofNat_toNat]
      have parts : encode (b :: rest) =
          digit (b.toNat / 16) :: digit (b.toNat % 16) :: encode rest := rfl
      simp only [parts, decode, digit?_digit _ high, digit?_digit _ low, ih, Option.bind_eq_bind,
        Option.bind_some, Option.pure_def, octet]

theorem length_of_decode {t : Text} {octets : Octets} (read : decode t = some octets) :
    t.length = 2 * octets.length := by
  fun_induction decode t generalizing octets with
  | case1 => simp_all
  | case2 => simp at read
  | case3 high low rest ih =>
      simp only [Option.bind_eq_bind, Option.bind_eq_some_iff, Option.pure_def,
        Option.some.injEq] at read
      obtain ⟨_, _, _, _, later, readLater, rfl⟩ := read
      simp [ih readLater]
      omega

/-- The lowest `width` digits of a number. -/
def padded (width n : Nat) : Text :=
  match width with
  | 0 => []
  | w + 1 => padded w (n / 16) ++ [digit (n % 16)]

end BlockWire.Hex
