/- # What the formatting of a document does not matter for

Two documents may differ in blanks, in the order of keys at every level, in how strings and
keys are escaped, and in what stands under a key before its last occurrence. If both are split, the
objects they are read as are the same but for the order of keys, and they have the same raw
graffiti or none, then they are read as the same body or as none
(`decode_of_same_members`).

Once a document is split and read as an object, what its members denote, its keys and its raw
graffiti settle what body it is read as (`decode_of_load`). Raw octets of any other field
do not matter.

Documents that are read alike are not always split alike. Reading passes over a byte order mark
and takes whatever encoding it finds; splitting asks for strict UTF-8 and finds the mark in
front of the brace (`decode_marked_quiet`). -/
import BlockWire.Proofs.Body.Acceptance
import BlockWire.Proofs.RawFields.Agreement
import BlockWire.Proofs.Wire.Reordering

namespace BlockWire

set_option autoImplicit false

open Json (Reordered)

namespace Body

variable {preset : Preset} {members members' : Keyed Json}

/-! ## Empty lists in another order -/

theorem reordered_nullAsEmpty {j j' : Json} (reordered : Reordered j j') :
    Reordered (nullAsEmpty j) (nullAsEmpty j') := by
  cases reordered with
  | refl => exact .refl _
  | arr each => exact .arr each
  | obj keys each => exact .obj keys each

theorem reordered_filled (reordered : Reordered (.obj members) (.obj members')) (name : Text) :
    Reordered (filled members name) (filled members' name) := by
  rw [filled, filled]
  rcases reordered.get? name with ⟨absent, absent'⟩ | ⟨x, y, found, found', under⟩
  · rw [absent, absent']
    exact .refl _
  · rw [found, found']
    exact reordered_nullAsEmpty under

theorem reordered_withEmptyLists (reordered : Reordered (.obj members) (.obj members')) :
    Reordered (.obj (withEmptyLists members)) (.obj (withEmptyLists members')) := by
  apply Reordered.obj
  · intro key
    rw [mem_keys_withEmptyLists, mem_keys_withEmptyLists, reordered.mem_keys_iff]
  · intro key x y here there
    rw [withEmptyLists, get?_foldl_fillList] at here there
    split at here
    next listed =>
      rw [if_pos listed] at there
      obtain rfl := Option.some.inj here
      obtain rfl := Option.some.inj there
      exact reordered_filled reordered key
    next unlisted =>
      rw [if_neg unlisted] at there
      rcases reordered.get? key with ⟨absent, -⟩ | ⟨x', y', found, found', under⟩
      · rw [absent] at here
        simp at here
      · obtain rfl := Option.some.inj (here.symm.trans found)
        obtain rfl := Option.some.inj (there.symm.trans found')
        exact under

/-! ## What settles the body -/

theorem decode_of_load {d : Document} {raws : Keyed Octets}
    (parted : RawFields.split d = .ok raws) (loaded : Json.load d = .ok (.obj members))
    {b : Value} :
    (decode preset d).outcome = .ok b ↔
      HasLiteralGraffiti raws ∧ (∀ key ∈ Keyed.keys members, key ∈ fieldNames preset) ∧
        Wire.fromJson (type preset) (.obj (withEmptyLists members)) = .ok b := by
  have related := RawFields.related_of_load parted loaded
  rw [decode_outcome_eq_ok, ← related.keys_eq]
  simp only [RawFields.splitDeclared_eq_ok, parted]
  constructor
  · rintro ⟨raws', ⟨same, known⟩, read⟩
    obtain rfl := Except.ok.inj same
    obtain ⟨graffiti, whole⟩ := (reads_iff related (related.keys_eq ▸ known)).1 read
    exact ⟨graffiti, known, whole⟩
  · rintro ⟨graffiti, known, whole⟩
    exact ⟨raws, ⟨rfl, known⟩,
      (reads_iff related (related.keys_eq ▸ known)).2 ⟨graffiti, whole⟩⟩

/-- Documents that are split and are read as the same object but for the order of keys, with the
same raw graffiti or none, are read as the same body or as none. -/
theorem decode_of_same_members (preset : Preset) {d d' : Document} {raws raws' : Keyed Octets}
    {members members' : Keyed Json} (parted : RawFields.split d = .ok raws)
    (parted' : RawFields.split d' = .ok raws') (loaded : Json.load d = .ok (.obj members))
    (loaded' : Json.load d' = .ok (.obj members'))
    (same : Json.same (.obj members) (.obj members') = true)
    (graffiti : Keyed.get? raws "graffiti" = Keyed.get? raws' "graffiti") (b : Value) :
    (decode preset d).outcome = .ok b ↔ (decode preset d').outcome = .ok b := by
  have reordered := Reordered.of_same (Json.load_formed loaded) same
  rw [decode_of_load parted loaded, decode_of_load parted' loaded', HasLiteralGraffiti, graffiti,
    Wire.fromJson_reordered (reordered_withEmptyLists reordered), ← HasLiteralGraffiti]
  simp only [reordered.mem_keys_iff]

/-- Whether two documents are split and read as the same object but for the order of keys, and
have the same raw graffiti or none. -/
def alike (d d' : Document) : Bool :=
  match RawFields.split d, RawFields.split d', Json.load d, Json.load d' with
  | .ok raws, .ok raws', .ok (.obj members), .ok (.obj members') =>
      Json.same (.obj members) (.obj members') &&
        Keyed.get? raws "graffiti" == Keyed.get? raws' "graffiti"
  | _, _, _, _ => false

theorem exists_members_of_alike {d d' : Document} (compared : alike d d' = true) :
    ∃ raws raws' members members', RawFields.split d = .ok raws ∧
      RawFields.split d' = .ok raws' ∧ Json.load d = .ok (.obj members) ∧
      Json.load d' = .ok (.obj members') ∧ Json.same (.obj members) (.obj members') = true ∧
      Keyed.get? raws "graffiti" = Keyed.get? raws' "graffiti" := by
  unfold alike at compared
  split at compared
  next raws raws' members members' parted parted' loaded loaded' =>
    rw [Bool.and_eq_true, beq_iff_eq] at compared
    obtain ⟨same, graffiti⟩ := compared
    exact ⟨raws, raws', members, members', parted, parted', loaded, loaded', same, graffiti⟩
  · cases compared

theorem decode_of_same_members_quiet :
    ∃ raws raws' members members', RawFields.split (quiet false) = .ok raws ∧
      RawFields.split (quiet true) = .ok raws' ∧
      Json.load (quiet false) = .ok (.obj members) ∧
      Json.load (quiet true) = .ok (.obj members') ∧
      Json.same (.obj members) (.obj members') = true ∧
      Keyed.get? raws "graffiti" = Keyed.get? raws' "graffiti" ∧
      ∃ b, (decode .minimal (quiet false)).outcome = .ok b ∧
        (decode .minimal (quiet true)).outcome = .ok b := by
  have compared : alike (quiet false) (quiet true) = true := by decide +kernel
  obtain ⟨raws, raws', members, members', parted, parted', loaded, loaded', same, graffiti⟩ :=
    exists_members_of_alike compared
  obtain ⟨b, read⟩ := exists_of_isOk quiet_accepted.1
  have agree := decode_of_same_members .minimal parted parted' loaded loaded' same graffiti b
  exact ⟨raws, raws', members, members', parted, parted', loaded, loaded', same, graffiti, b, read,
    agree.1 read⟩

/-! ## A mark in front -/

/-- The octets of a text with a byte order mark in front. -/
def marked (t : Text) : Octets := Utf8.encode (.byteOrderMark :: t)

theorem decode_marked (t : Text) : Encoding.decode (marked t) = .ok t := by
  have sniffed : Encoding.sniff (marked t) = ⟨.utf8, Utf8.encode t, 0⟩ := rfl
  rw [Encoding.decode, sniffed, Encoding.Sniffed.decode]
  simp only [Utf8.decodeSurrogates_encode]
  rfl

/-- The mark is no blank, and no object begins with it. -/
theorem split_marked (t : Text) (raws : Keyed Octets) :
    RawFields.split (.octets (marked t)) ≠ .ok raws := by
  intro parted
  obtain ⟨t', isText, parts⟩ := RawFields.split_eq_ok.1 parted
  obtain ⟨octets, -⟩ := RawFields.text_octets_eq_ok.1 isText
  obtain ⟨fields, shaped, -⟩ := RawFields.splitText_eq_ok_iff.1 parts
  have unmarked := shaped.startsWithMark
  have same := congrArg Utf8.decodeSurrogates octets
  rw [marked, Utf8.decodeSurrogates_encode, Utf8.decodeSurrogates_encode] at same
  obtain rfl := Except.ok.inj same
  simp [Json.startsWithMark] at unmarked

/-- With the mark and without it the octets are read as the same text, so with the same object
and the same graffiti in it; but only those without it are read as a body. -/
theorem decode_marked_quiet :
    Encoding.decode (Utf8.encode (quietText false)) = .ok (quietText false) ∧
      Encoding.decode (marked (quietText false)) = .ok (quietText false) ∧
      (∃ raws raw, RawFields.splitText (quietText false) = .ok raws ∧
        Keyed.get? raws "graffiti" = some raw) ∧
      (∃ members, Json.load (quiet false) = .ok (.obj members) ∧
        Json.load (.octets (marked (quietText false))) = .ok (.obj members)) ∧
      (∃ b, (decode .minimal (quiet false)).outcome = .ok b) ∧
      ∀ preset b, (decode preset (.octets (marked (quietText false)))).outcome ≠ .ok b := by
  obtain ⟨accepted, plain, nests⟩ := quiet_accepted
  obtain ⟨b, read⟩ := exists_of_isOk accepted
  obtain ⟨raws, split, -⟩ := decode_outcome_eq_ok.1 read
  obtain ⟨parted, -⟩ := RawFields.splitDeclared_eq_ok.1 split
  have isText : RawFields.text (quiet false) = .ok (quietText false) :=
    RawFields.text_octets_eq_ok.2 ⟨rfl, plain⟩
  obtain ⟨t, isText', parts⟩ := RawFields.split_eq_ok.1 parted
  obtain rfl := Except.ok.inj (isText'.symm.trans isText)
  have sniffed := RawFields.decode_of_splitText parts
  have sniffedMarked := decode_marked (quietText false)
  obtain ⟨members, loaded⟩ := RawFields.load_of_split isText (by decide) nests parted
  have literal : HasLiteralGraffiti raws := ((decode_of_load parted loaded).1 read).1
  obtain ⟨raw, graffiti, -⟩ := literal
  refine ⟨sniffed, sniffedMarked, ⟨raws, raw, parts, graffiti⟩, ⟨members, loaded, ?_⟩, ⟨b, read⟩,
    fun preset b' read' => ?_⟩
  · rw [quiet, Json.load, sniffed] at loaded
    rw [Json.load, sniffedMarked]
    exact loaded
  · obtain ⟨raws', split', -⟩ := decode_outcome_eq_ok.1 read'
    exact split_marked _ _ (RawFields.splitDeclared_eq_ok.1 split').1

end Body

end BlockWire
