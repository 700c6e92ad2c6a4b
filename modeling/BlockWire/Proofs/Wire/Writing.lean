/- # What is written denotes what it was written from

A value that fits a supported type is written as a JSON value that denotes it there
(`denotes_toJson`), so it is read back from it, and as one that survives being text
(`readable_toJson`). One lemma a kind of type, then one induction over types. -/
import BlockWire.Proofs.Json.Printing
import BlockWire.Proofs.Ssz.Supported
import BlockWire.Proofs.Wire.Reading

namespace BlockWire.Wire

set_option autoImplicit false

theorem itemsToJson_eq_map (items : List Value) : itemsToJson items = items.map toJson := by
  induction items with
  | nil => rfl
  | cons item rest ih => rw [itemsToJson, ih, List.map_cons]

theorem fieldsToJson_eq_map (fields : List (Text × Value)) :
    fieldsToJson fields = fields.map fun field => (field.1, toJson field.2) := by
  induction fields with
  | nil => rfl
  | cons field rest ih =>
      obtain ⟨name, value⟩ := field
      rw [fieldsToJson, ih, List.map_cons]

theorem keys_fieldsToJson (fields : List (Text × Value)) :
    Keyed.keys (fieldsToJson fields) = fields.map Prod.fst := by
  rw [fieldsToJson_eq_map, Keyed.keys, List.map_map]
  rfl

/-! ## Sequences and fields that fit -/

theorem fitsEach_iff {element : Ty} {items : List Value} :
    Value.FitsEach element items ↔ ∀ item ∈ items, Value.Fits element item := by
  induction items with
  | nil => simp [Value.FitsEach.nil]
  | cons item rest ih =>
      rw [List.forall_mem_cons, ← ih]
      constructor
      · intro each
        cases each with
        | cons head tail => exact ⟨head, tail⟩
      · rintro ⟨head, tail⟩
        exact .cons head tail

theorem exists_of_fitsFields {types : List (Text × Ty)} {fields : List (Text × Value)}
    (each : Value.FitsFields types fields) {field : Text × Value} (mem : field ∈ fields) :
    ∃ type ∈ types, type.1 = field.1 ∧ Value.Fits type.2 field.2 := by
  induction types generalizing fields with
  | nil =>
      cases each
      simp at mem
  | cons type rest ih =>
      cases each with
      | cons head tail =>
          rcases List.mem_cons.1 mem with rfl | later
          · exact ⟨_, List.mem_cons_self, rfl, head⟩
          · obtain ⟨declared, inRest, fits⟩ := ih tail later
            exact ⟨declared, List.mem_cons_of_mem _ inRest, fits⟩

theorem names_eq_of_fitsFields {types : List (Text × Ty)} {fields : List (Text × Value)}
    (each : Value.FitsFields types fields) : fields.map Prod.fst = types.map Prod.fst := by
  induction types generalizing fields with
  | nil =>
      cases each
      rfl
  | cons type rest ih =>
      cases each with
      | cons head tail => rw [List.map_cons, List.map_cons, ih tail]

/-! ## Strings -/

theorem spells_encode (octets : Octets) : Hex.Spells (Hex.encode octets) octets :=
  Hex.decode_eq_some.1 (Hex.decode_encode octets)

theorem denotes_uint {bits n : Nat} (inRange : n < Nat.pow 2 bits) :
    Denotes (.uint bits) (.str (Text.ofNat n)) (.uint n) := by
  have digits := Text.digitsValue_ofNat n
  have denoted := Denotes.uint (Text.ofNat_ne_nil n)
    (fun c => Text.isDigit_of_mem_ofNat) (by rwa [digits])
  rwa [digits] at denoted

theorem denotes_bitvector (bits : List Bool) :
    Denotes (.bitvector bits.length) (hexText (Bits.encodeVector bits)) (.bitvector bits) := by
  have clear : ∀ i, bits.length ≤ i → Bits.bitAt (Bits.encodeVector bits) i = false := by
    intro i behind
    rw [Bits.bitAt_encodeVector, List.getD_eq_getElem?_getD, List.getElem?_eq_none behind,
      Option.getD_none]
  have denoted := Denotes.bitvector (spells_encode (Bits.encodeVector bits))
    (Bits.length_encodeVector bits) clear
  rwa [Bits.below_encodeVector (Nat.le_refl _), List.take_length] at denoted

theorem denotes_bitlist {limit : Nat} {bits : List Bool} (within : bits.length ≤ limit) :
    Denotes (.bitlist limit) (hexText (Bits.encodeList bits)) (.bitlist bits) := by
  obtain ⟨last, ends, nonzero, delimiter⟩ :=
    Bits.listLength?_eq_some.1 (Bits.listLength?_encodeList bits)
  have denoted := Denotes.bitlist (spells_encode _) ends nonzero delimiter within
  rwa [Bits.below_encodeList] at denoted

theorem length_hex (octets : Octets) : (Hex.encode octets).length = 2 * octets.length :=
  (spells_encode octets).length

/-- A record is written with the keys that its type declares. -/
theorem keys_of_fitsFields {types : List (Text × Ty)} {fields : List (Text × Value)}
    (each : Value.FitsFields types fields) :
    Keyed.keys (fieldsToJson fields) = types.map Prod.fst := by
  rw [keys_fieldsToJson, names_eq_of_fitsFields each]

/-! ## The whole value -/

theorem denotesFields_toJson {types : List (Text × Ty)} {fields : List (Text × Value)}
    {members : Keyed Json}
    (denotes : ∀ type ∈ types, ∀ v, Value.Fits type.2 v → Denotes type.2 (toJson v) v)
    (each : Value.FitsFields types fields)
    (found : ∀ field ∈ fields, Keyed.get? members field.1 = some (toJson field.2)) :
    DenotesFields types members fields := by
  induction types generalizing fields with
  | nil =>
      cases each
      exact .nil members
  | cons type rest ih =>
      obtain ⟨here, later⟩ := List.forall_mem_cons.1 denotes
      cases each with
      | cons head tail =>
          obtain ⟨foundHere, foundLater⟩ := List.forall_mem_cons.1 found
          exact .cons foundHere (here _ head) (ih later tail foundLater)

theorem denotesEach_toJson {element : Ty} {items : List Value}
    (denotes : ∀ v, Value.Fits element v → Denotes element (toJson v) v)
    (each : Value.FitsEach element items) : DenotesEach element (itemsToJson items) items := by
  rw [denotesEach_iff, itemsToJson_eq_map, List.forall₂_map_left_iff, List.forall₂_same]
  exact fun item mem => denotes item (fitsEach_iff.1 each item mem)

theorem length_itemsToJson (items : List Value) : (itemsToJson items).length = items.length := by
  rw [itemsToJson_eq_map, List.length_map]

/-- What a fitting value is written as denotes it. -/
theorem denotes_toJson {type : Ty} {v : Value} (supported : type.isSupported = true)
    (fits : Value.Fits type v) : Denotes type (toJson v) v := by
  induction type using Ty.induction generalizing v with
  | uint bits =>
      cases fits with
      | uint inRange => exact denotes_uint inRange
  | boolean =>
      cases fits with
      | boolean b => exact .boolean b
  | byteVector length =>
      cases fits with
      | byteVector exact => exact .byteVector (spells_encode _) (by rw [length_hex, exact])
  | byteList limit =>
      cases fits with
      | byteList within => exact .byteList (spells_encode _) (by rw [length_hex]; omega)
  | bitvector length =>
      cases fits with
      | bitvector exact => exact exact ▸ denotes_bitvector _
  | bitlist limit =>
      cases fits with
      | bitlist within => exact denotes_bitlist within
  | vector element length ih =>
      cases fits with
      | byteSequenceVector bytes exact =>
          exact .byteSequenceVector bytes (spells_encode _) (by rw [length_hex, exact])
      | vector notBytes exact each =>
          have denotes : ∀ v, Value.Fits element v → Denotes element (toJson v) v :=
            fun v => ih supported
          exact .vector notBytes (by rw [length_itemsToJson, exact])
            (denotesEach_toJson denotes each)
  | list element limit ih =>
      cases fits with
      | byteSequenceList bytes within =>
          exact .byteSequenceList bytes (spells_encode _) (by rw [length_hex]; omega)
      | list notBytes within each =>
          have denotes : ∀ v, Value.Fits element v → Denotes element (toJson v) v :=
            fun v => ih supported
          exact .list notBytes (by rw [length_itemsToJson]; exact within)
            (denotesEach_toJson denotes each)
  | container name types ih =>
      cases fits with
      | @container _ _ fields each =>
          obtain ⟨distinct, inside⟩ := Ty.isSupported_container.1 supported
          have names := keys_of_fitsFields each
          refine .container (fun key => by rw [names]) (denotesFields_toJson ?_ each ?_)
          · exact fun type mem v => ih type mem (inside type mem).2
          · intro field mem
            have member : (field.1, toJson field.2) ∈ fieldsToJson fields := by
              rw [fieldsToJson_eq_map]
              exact List.mem_map_of_mem mem
            exact Keyed.get?_of_mem (names ▸ distinct) member
  | shapeless name => cases fits

/-! ## The written value as text -/

theorem unpaired_hex {digits : Text} (all : ∀ c ∈ digits, Hex.isDigit c = true) :
    Json.Unpaired (hexMark ++ digits) := by
  have mark : Json.Graphic hexMark := by decide
  exact Json.unpaired_of_plain (mark.append (Json.graphic_of_isDigit all)).plain

theorem unpaired_hexText (octets : Octets) : Json.Unpaired (hexMark ++ Hex.encode octets) :=
  unpaired_hex (spells_encode octets).isDigit

theorem readable_seq {element : Ty} {items : List Value} {depth : Nat}
    (each : Value.FitsEach element items)
    (readable : ∀ v, Value.Fits element v → Json.Readable depth (toJson v)) :
    Json.Readable (depth + 1) (toJson (.seq items)) := by
  rw [toJson, itemsToJson_eq_map]
  refine .arr (List.forall_mem_map.2 fun item mem => ?_)
  exact readable item (fitsEach_iff.1 each item mem)

/-- What a fitting value is written as is read back from its text, with the levels that
the type has. -/
theorem readable_toJson {type : Ty} {v : Value} (supported : type.isSupported = true)
    (fits : Value.Fits type v) : Json.Readable type.levels (toJson v) := by
  induction type using Ty.induction generalizing v with
  | uint bits =>
      cases fits with
      | @uint _ n _ =>
          exact .str _ (Json.unpaired_of_plain (Json.graphic_ofNat n).plain)
  | boolean =>
      cases fits with
      | boolean b => exact .bool _ b
  | byteVector length =>
      cases fits with
      | byteVector => exact .str _ (unpaired_hexText _)
  | byteList limit =>
      cases fits with
      | byteList => exact .str _ (unpaired_hexText _)
  | bitvector length =>
      cases fits with
      | bitvector => exact .str _ (unpaired_hexText _)
  | bitlist limit =>
      cases fits with
      | bitlist => exact .str _ (unpaired_hexText _)
  | vector element length ih =>
      cases fits with
      | byteSequenceVector => exact .str _ (unpaired_hexText _)
      | vector _ _ each => exact readable_seq each fun _ => ih supported
  | list element limit ih =>
      cases fits with
      | byteSequenceList => exact .str _ (unpaired_hexText _)
      | list _ _ each => exact readable_seq each fun _ => ih supported
  | container name types ih =>
      cases fits with
      | @container _ _ fields each =>
          obtain ⟨distinct, inside⟩ := Ty.isSupported_container.1 supported
          have names := keys_of_fitsFields each
          have shape : toJson (.record fields) = .obj (fieldsToJson fields) := rfl
          rw [shape, Ty.levels]
          refine .obj (names ▸ distinct) ?_ ?_
          · rw [names, List.forall_mem_map]
            intro type mem
            exact Json.unpaired_of_plain (Ty.noSurrogate_of_isPlainName (inside type mem).1)
          · rw [fieldsToJson_eq_map, List.forall_mem_map]
            intro field mem
            obtain ⟨type, declared, -, fitsField⟩ := exists_of_fitsFields each mem
            have readable := ih type declared (inside type declared).2 fitsField
            exact readable.mono (Ty.levels_le_fieldLevels declared)
  | shapeless name => cases fits

end BlockWire.Wire
