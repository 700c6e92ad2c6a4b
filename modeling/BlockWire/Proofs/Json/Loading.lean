/- # Octets of one value

The octets of a token show that they are UTF-8, since a token begins in ASCII and has
no zero in it. So the octets of a value's text are read as that value, and as it is
found inside a longer text (`load_of_takes`). -/
import BlockWire.Json.Scanner
import BlockWire.Proofs.Json.Printing

namespace BlockWire

set_option autoImplicit false

namespace Utf8

theorem encode_append (s t : Text) : encode (s ++ t) = encode s ++ encode t :=
  List.flatMap_append

theorem encodeChar_ascii {c : CodePoint} (ascii : c.val < 0x80) :
    encodeChar c = [UInt8.ofNat c.val] := if_pos ascii

theorem ofNat_ne_zero {n : Nat} (pos : n ≠ 0) (small : n < 0x100) : UInt8.ofNat n ≠ 0 := by
  intro zero
  have same := congrArg UInt8.toNat zero
  rw [toNat_octet small] at same
  exact pos same

theorem encodeChar_noZero {c : CodePoint} (pos : c.val ≠ 0) : ∀ b ∈ encodeChar c, b ≠ 0 := by
  have bound := c.val_lt
  intro b mem
  unfold encodeChar at mem
  simp only at mem
  repeat' split at mem
  all_goals
    simp only [List.mem_cons, List.not_mem_nil, or_false] at mem
  · rw [mem]
    exact ofNat_ne_zero pos (by omega)
  · rcases mem with rfl | rfl <;> exact ofNat_ne_zero (by omega) (by omega)
  · rcases mem with rfl | rfl | rfl <;> exact ofNat_ne_zero (by omega) (by omega)
  · rcases mem with rfl | rfl | rfl | rfl <;> exact ofNat_ne_zero (by omega) (by omega)

theorem encode_noZero {t : Text} (noZero : ∀ c ∈ t, c.val ≠ 0) : ∀ b ∈ encode t, b ≠ 0 := by
  intro b mem
  obtain ⟨c, inText, inChar⟩ := List.mem_flatMap.1 mem
  exact encodeChar_noZero (noZero c inText) b inChar

end Utf8

namespace Encoding

theorem ofMark?_eq_none {a : UInt8} {rest : Octets} (ascii : a.toNat < 0x80) (pos : a ≠ 0) :
    ofMark? (a :: rest) = none := by
  have other : ∀ b : UInt8, 0x80 ≤ b.toNat → a ≠ b := by
    rintro b high rfl
    omega
  unfold ofMark?
  split
  next same => exact absurd (List.cons.inj same).1 pos
  next same => exact absurd (List.cons.inj same).1 (other _ (by decide))
  next same => exact absurd (List.cons.inj same).1 (other _ (by decide))
  next same => exact absurd (List.cons.inj same).1 (other _ (by decide))
  next same => exact absurd (List.cons.inj same).1 (other _ (by decide))
  · rfl

theorem ofZeros_eq_utf8 {octets : Octets} (noZero : ∀ b ∈ octets, b ≠ 0) :
    ofZeros octets = .utf8 := by
  unfold ofZeros
  split
  next a b =>
    rw [if_neg (noZero a (by simp)), if_neg (noZero b (by simp))]
  next a b c d rest =>
    rw [if_neg (noZero a (by simp)), if_neg (noZero b (by simp))]
  · rfl

/-- A text with no zero in it that begins in ASCII is read in the encoding it was written
in. -/
theorem decode_encode {t : Text} (noZero : ∀ c ∈ t, c.val ≠ 0)
    (starts : ∃ c rest, t = c :: rest ∧ c.val < 0x80) : decode (Utf8.encode t) = .ok t := by
  have noZero := Utf8.encode_noZero noZero
  have utf8 := ofZeros_eq_utf8 noZero
  obtain ⟨c, rest, stands, ascii⟩ := starts
  have octets : Utf8.encode t = UInt8.ofNat c.val :: Utf8.encode rest := by
    rw [stands, Utf8.encode, List.flatMap_cons, Utf8.encodeChar_ascii ascii]
    rfl
  have first : (UInt8.ofNat c.val).toNat < 0x80 := by
    rw [Utf8.toNat_octet (by omega)]
    exact ascii
  have sniffed : sniff (Utf8.encode t) = ⟨.utf8, Utf8.encode t, 0⟩ := by
    rw [sniff, utf8]
    rw [octets] at noZero ⊢
    rw [ofMark?_eq_none first (noZero _ List.mem_cons_self)]
    rfl
  rw [decode, sniffed, Sniffed.decode]
  simp only [Utf8.decodeSurrogates_encode]
  rfl

theorem decode_token {s : Text} (token : Json.Token s) : decode (Utf8.encode s) = .ok s := by
  obtain ⟨c, rest, stands, -, ascii⟩ := token.starts
  exact decode_encode token.noZero ⟨c, rest, stands, ascii⟩

end Encoding

namespace Json

theorem scanDocument_eq_ok {t : Text} {v : Json} :
    scanDocument t = .ok v ↔
      ∃ left, scanValue depthLimit (skipBlanks t) = .ok (v, left) ∧ skipBlanks left = [] := by
  unfold scanDocument
  rw [bind_eq_ok]
  constructor
  · rintro ⟨⟨value, left⟩, read, ends⟩
    simp only at ends
    split at ends
    next nothing =>
      obtain rfl := Except.ok.inj ends
      exact ⟨left, read, nothing⟩
    · simp at ends
  · rintro ⟨left, read, nothing⟩
    exact ⟨(v, left), read, by simp only [nothing]⟩

theorem parse_eq_ok {t : Text} {v : Json} :
    parse t = .ok v ↔
      ∃ left, scanValue depthLimit (skipBlanks t) = .ok (v, left) ∧ skipBlanks left = [] := by
  rw [parse, mapError_eq_ok, scanDocument_eq_ok]

theorem parse_of_takes {s : Text} {v : Json} (takes : Takes (scanValue depthLimit) s v) :
    parse s = .ok v := parse_eq_ok.2 ⟨[], takes.scanned (scanValue_local depthLimit), rfl⟩

/-- The octets of a value's text are read as that value. -/
theorem load_of_takes {s : Text} {v : Json} (takes : Takes (scanValue depthLimit) s v) :
    load (.octets (Utf8.encode s)) = .ok v := by
  have token := (scanValue_local depthLimit).token takes
  rw [load, Encoding.decode_token token]
  simp only [Except.mapError, bind, Except.bind, parse_of_takes takes]

/-- A readable value is read back from its octets. -/
theorem load_encode {v : Json} (readable : Readable depthLimit v) :
    load (.octets v.encode) = .ok v := load_of_takes readable.takes

end Json

end BlockWire
