/- # How graffiti is spelled

Graffiti is read from one spelling alone: a quote, the mark, 64 hex digits and a quote
(`decode_eq_ok`). What has that spelling is the JSON text of the string inside it, so
the strict reader and the readers of JSON see the same octets there. -/
import BlockWire.Body.Graffiti
import BlockWire.Proofs.Json.Loading
import BlockWire.Proofs.Wire.Writing

namespace BlockWire

set_option autoImplicit false

namespace Utf8

/-- ASCII takes one octet a code point. -/
theorem encode_ascii {t : Text} (ascii : Json.Ascii t) :
    encode t = t.map fun c => UInt8.ofNat c.val := by
  induction t with
  | nil => rfl
  | cons c t ih =>
      obtain ⟨here, later⟩ := List.forall_mem_cons.1 ascii
      rw [encode, List.flatMap_cons, encodeChar_ascii here, List.map_cons, ← ih later]
      rfl

end Utf8

namespace Graffiti

theorem codes_encode {t : Text} (ascii : Json.Ascii t) : codes (Utf8.encode t) = t := by
  rw [Utf8.encode_ascii ascii, codes, List.map_map]
  conv_rhs => rw [← List.map_id t]
  refine List.map_congr_left fun c mem => ?_
  have small := ascii c mem
  rw [Function.comp_apply, Utf8.toNat_octet (by omega), CodePoint.ofNat_val, id]

theorem encode_codes {octets : Octets} (ascii : Json.Ascii (codes octets)) :
    Utf8.encode (codes octets) = octets := by
  rw [Utf8.encode_ascii ascii, codes, List.map_map]
  conv_rhs => rw [← List.map_id octets]
  refine List.map_congr_left fun b _ => ?_
  have bound := b.toNat_lt
  rw [Function.comp_apply, CodePoint.val_ofNat (by omega), UInt8.ofNat_toNat, id]

/-- The one spelling that graffiti has. -/
def literal (digits : Text) : Octets := Utf8.encode ("\"0x" ++ digits ++ "\"")

theorem literal_eq (digits : Text) :
    literal digits = opening ++ (Utf8.encode digits ++ closing) := by
  rw [literal, Utf8.encode_append, Utf8.encode_append, List.append_assoc]
  rfl

/-- Of the right size, what begins and ends in the right way is a frame around so many
octets. -/
theorem exists_framed {raw : Octets} (starts : opening <+: raw) (ends : closing <:+ raw)
    (exact : raw.length = writtenSize) :
    ∃ inside, inside.length = 2 * size ∧ raw = opening ++ (inside ++ closing) := by
  have closingSize : closing.length = 1 := rfl
  obtain ⟨rest, rfl⟩ := starts
  obtain ⟨front, parted⟩ := ends
  have restSize : rest.length = 2 * size + closing.length := by
    rw [writtenSize, List.length_append] at exact
    omega
  have frontSize : front.length = opening.length + 2 * size := by
    have lengths := congrArg List.length parted
    rw [List.length_append, List.length_append] at lengths
    omega
  have last : rest.drop (2 * size) = closing := by
    have dropped := congrArg (List.drop front.length) parted
    rw [List.drop_left, frontSize, ← List.drop_drop, List.drop_left] at dropped
    exact dropped.symm
  refine ⟨rest.take (2 * size), ?_, ?_⟩
  · rw [List.length_take]
    omega
  · rw [← last, List.take_append_drop]

/-- Within the frame the octets count as digits. -/
theorem decode_framed_eq_ok {inside octets : Octets} (count : inside.length = 2 * size) :
    decode (opening ++ (inside ++ closing)) = .ok octets ↔
      Hex.Spells (codes inside) octets := by
  have starts : opening.isPrefixOf (opening ++ (inside ++ closing)) = true :=
    List.isPrefixOf_iff_prefix.2 (List.prefix_append _ _)
  have ends : closing.isSuffixOf (opening ++ (inside ++ closing)) = true := by
    rw [List.isSuffixOf_iff_suffix, ← List.append_assoc]
    exact List.suffix_append _ _
  have exact : (opening ++ (inside ++ closing)).length = writtenSize := by
    rw [writtenSize, List.length_append, List.length_append]
    omega
  have codesSize : (codes inside).length = 2 * size := by rw [codes, List.length_map, count]
  rw [decode, starts, ends, exact, List.drop_left, List.take_left' count, ← Hex.decode_eq_some]
  simp only [Bool.not_true, Bool.false_eq_true, if_false, ne_eq, not_true_eq_false]
  cases spelled : Hex.decode (codes inside) with
  | none => simp
  | some found =>
      have length := (Hex.decode_eq_some.1 spelled).length
      have foundSize : found.length = size := by omega
      simp [foundSize]

/-- Graffiti is read from its literal spelling and from nothing else. -/
theorem decode_eq_ok {raw octets : Octets} :
    decode raw = .ok octets ↔
      ∃ digits, digits.length = 2 * size ∧ Hex.Spells digits octets ∧ raw = literal digits := by
  constructor
  · intro read
    have checked := read
    rw [decode, guard_eq_ok, guard_eq_ok, guard_eq_ok] at checked
    obtain ⟨starts, ends, exact, -⟩ := checked
    rw [Bool.not_eq_true, Bool.not_eq_false', List.isPrefixOf_iff_prefix] at starts
    rw [Bool.not_eq_true, Bool.not_eq_false', List.isSuffixOf_iff_suffix] at ends
    obtain ⟨inside, count, rfl⟩ := exists_framed starts ends (Decidable.not_not.1 exact)
    have spells := (decode_framed_eq_ok count).1 read
    have same := encode_codes (Json.graphic_of_isDigit spells.isDigit).ascii
    refine ⟨codes inside, ?_, spells, ?_⟩
    · rw [codes, List.length_map, count]
    · rw [literal_eq, same]
  · rintro ⟨digits, count, spells, rfl⟩
    have ascii := (Json.graphic_of_isDigit spells.isDigit).ascii
    have octetCount : (Utf8.encode digits).length = 2 * size := by
      rw [Utf8.encode_ascii ascii, List.length_map, count]
    rw [literal_eq, decode_framed_eq_ok octetCount, codes_encode ascii]
    exact spells

/-! ## Graffiti as JSON -/

theorem literal_eq_encode {digits : Text} (all : ∀ c ∈ digits, Hex.isDigit c = true) :
    literal digits = (Json.str (Wire.hexMark ++ digits)).encode := by
  have plain : ∀ c ∈ Wire.hexMark ++ digits,
      c ≠ .ofChar '"' ∧ c ≠ .ofChar '\\' ∧ 0x20 ≤ c.val ∧ c.val < 0x7F := by
    refine List.forall_mem_append.2 ⟨?_, fun c mem => Hex.bounds_of_isDigit (all c mem)⟩
    decide
  rw [Json.encode, Json.print, Json.printString_of_plain plain, literal]
  rfl

/-- The literal spelling is read as JSON too, as the string that it spells. -/
theorem load_literal {digits : Text} (all : ∀ c ∈ digits, Hex.isDigit c = true) :
    Json.load (.octets (literal digits)) = .ok (.str (Wire.hexMark ++ digits)) := by
  rw [literal_eq_encode all]
  exact Json.load_encode (.str _ (Wire.unpaired_hex all))

/-- What is written is the literal spelling. -/
theorem encode_eq_literal (octets : Octets) : encode octets = literal (Hex.encode octets) := by
  rw [literal_eq_encode (Wire.spells_encode octets).isDigit]
  rfl

end Graffiti

end BlockWire
