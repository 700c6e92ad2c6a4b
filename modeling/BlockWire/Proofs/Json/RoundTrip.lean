/- # Reading undoes writing

Whether a value is readable is computed level by level (`readable_iff`): its numbers, texts and
keys are looked at one by one, and its levels are counted. What is written is printed ASCII, so
its octets are ASCII too and show no other encoding, and a readable value is read back from
them as it is, members in their order (`load_undoes_encode`). -/
import BlockWire.Proofs.Json.Levels
import BlockWire.Proofs.Json.Surrogates

namespace BlockWire.Json

set_option autoImplicit false

/-! ## Readable values -/

mutual

/-- Whether a value is readable with levels enough. -/
def isReadable : Json → Bool
  | .null => true
  | .bool _ => true
  | .int n => decide ((Text.ofNat n.natAbs).length ≤ Text.digitLimit)
  | .float _ => false
  | .str t => decide (Unpaired t)
  | .arr items => itemsReadable items
  | .obj members =>
      decide (Keyed.keys members).Nodup &&
        (Keyed.keys members).all (fun key => decide (Unpaired key)) && membersReadable members

def itemsReadable : List Json → Bool
  | [] => true
  | item :: rest => item.isReadable && itemsReadable rest

def membersReadable : List (Text × Json) → Bool
  | [] => true
  | (_, value) :: rest => value.isReadable && membersReadable rest

end

theorem itemsReadable_iff {items : List Json} :
    itemsReadable items = true ↔ ∀ item ∈ items, item.isReadable = true := by
  induction items with
  | nil => simp [itemsReadable]
  | cons item rest ih => rw [itemsReadable, Bool.and_eq_true, ih, List.forall_mem_cons]

theorem membersReadable_iff {members : List (Text × Json)} :
    membersReadable members = true ↔ ∀ member ∈ members, member.2.isReadable = true := by
  induction members with
  | nil => simp [membersReadable]
  | cons member rest ih =>
      obtain ⟨key, value⟩ := member
      rw [membersReadable, Bool.and_eq_true, ih, List.forall_mem_cons]

theorem isReadable_obj {members : Keyed Json} :
    (Json.obj members).isReadable = true ↔
      (Keyed.keys members).Nodup ∧ (∀ key ∈ Keyed.keys members, Unpaired key) ∧
        ∀ member ∈ members, member.2.isReadable = true := by
  simp [isReadable, membersReadable_iff, and_assoc]

theorem Readable.isReadable {depth : Nat} {v : Json} (readable : Readable depth v) :
    v.isReadable = true := by
  induction readable with
  | null => rfl
  | bool => rfl
  | int _ short => exact decide_eq_true short
  | str _ unpaired => exact decide_eq_true unpaired
  | arr _ ih => exact itemsReadable_iff.2 ih
  | obj distinct unpaired _ ih => exact isReadable_obj.2 ⟨distinct, unpaired, ih⟩

theorem readable_levels {v : Json} (readable : v.isReadable = true) : Readable v.levels v := by
  induction v using Json.induction with
  | null => exact .null _
  | bool b => exact .bool _ b
  | int n => exact .int _ (of_decide_eq_true readable)
  | float x => cases readable
  | str t => exact .str _ (of_decide_eq_true readable)
  | arr items ih =>
      have within := itemLevels_le.1 (Nat.le_refl (itemLevels items))
      have each := itemsReadable_iff.1 readable
      exact .arr fun item mem => (ih item mem (each item mem)).mono (within item mem)
  | obj members ih =>
      have within := memberLevels_le.1 (Nat.le_refl (memberLevels members))
      obtain ⟨distinct, unpaired, each⟩ := isReadable_obj.1 readable
      exact .obj distinct unpaired fun member mem =>
        (ih member mem (each member mem)).mono (within member mem)

theorem readable_iff {depth : Nat} {v : Json} :
    Readable depth v ↔ v.isReadable = true ∧ v.levels ≤ depth :=
  ⟨fun readable => ⟨readable.isReadable, readable.formed.levels_le⟩,
    fun ⟨readable, shallow⟩ => (readable_levels readable).mono shallow⟩

instance (depth : Nat) (v : Json) : Decidable (Readable depth v) :=
  decidable_of_iff _ readable_iff.symm

/-! ## Octets -/

theorem octet_of_ascii {t : Text} (ascii : Ascii t) : ∀ b ∈ Utf8.encode t, b < 0x80 := by
  intro b mem
  obtain ⟨c, inText, inChar⟩ := List.mem_flatMap.1 mem
  have small := ascii c inText
  rw [Utf8.encodeChar_ascii small, List.mem_singleton] at inChar
  rw [inChar, UInt8.lt_iff_toNat_lt, Utf8.toNat_octet (by omega)]
  exact small

/-- A value of at most 400 levels that is readable is written in ASCII and read back as it is. -/
theorem load_undoes_encode {v : Json} (readable : Readable 400 v) :
    (∀ b ∈ v.encode, b < 0x80) ∧ load (.octets v.encode) = .ok v := by
  have enough : 400 ≤ depthLimit := by decide
  exact ⟨octet_of_ascii (graphic_print v).ascii, load_encode (readable.mono enough)⟩

/-- Half a pair, and two halves the wrong way round. -/
def halves : Text := [.ofNat 0xD83D, 'x', .ofNat 0xDE00, .ofNat 0xD83D]

/-- Keys that need escapes, an astral code point, empty values and a negative number. -/
def scattered : Json :=
  .obj [("z\"\\\n", .arr [.int (-70), .int 0, .null, .bool false]), ("😀", .str halves),
    ("", .obj []), ("a", .arr [])]

theorem load_undoes_encode_scattered :
    Readable 400 scattered ∧ (∀ b ∈ scattered.encode, b < 0x80) ∧
      load (.octets scattered.encode) = .ok scattered := by
  have readable : Readable 400 scattered := by decide +kernel
  exact ⟨readable, load_undoes_encode readable⟩

end BlockWire.Json
