/- # What the failure of an entry says

Where an entry of a list field is not read, its index comes to stand twice in the failure:
beside the name of the field, and at the head of the path inside the entry. The message has
it once, behind the name, and then the path inside the entry and the reason
(`message_of_entry`). Nothing is assumed of that path: it may begin with an index as well.

How a list field fails with a mismatch is said in `entry_or_whole`: an entry fails, or else
there is no path. So an index stands beside a field exactly for an entry that fails, and all
other mismatches are shown with their whole path (`entry_failures_rendered`). -/
import BlockWire.Proofs.Body.Closure
import BlockWire.Proofs.Body.Operations
import BlockWire.Proofs.Wire.Path

namespace BlockWire

set_option autoImplicit false

/-! ## Messages with a path -/

namespace Failure

/-- The index is shown once, and the path inside the entry as a whole. -/
theorem message_of_entry (name : Text) (m : Mismatch) (i : Nat) :
    (field name (some (.mismatch (m.within (.index i)))) (some i)).message =
      name ++ "[" ++ Text.ofNat i ++ "]: " ++ pathText m.path ++ m.reason.message := by
  have placed : (m.within (.index i)).path.head? = some (.index i) := rfl
  rw [message, unplaced, if_pos placed, m.render_within, Text.ofInt_natCast, ← List.append_assoc]

theorem message_of_mismatch (name : Text) (m : Mismatch) :
    (field name (some (.mismatch m)) none).message =
      name ++ ": " ++ pathText m.path ++ m.reason.message := by
  rw [message, message, m.message_eq, ← List.append_assoc]

/-- The path to what a failure was caused by. -/
def causePath : Failure → List Step
  | .mismatch m => m.path
  | _ => []

end Failure

namespace Body

variable {preset : Preset}

/-! ## The entries of list fields -/

/-- The codec of one entry of a list field. -/
def Field.entryCodec? (preset : Preset) : Field → Option Codec
  | .operations which => some (which.codec preset)
  | .commitments => some commitment
  | _ => none

theorem exists_entryCodec (preset : Preset) {field : Field} (listed : field.isList = true) :
    ∃ codec, field.entryCodec? preset = some codec := by
  cases field with
  | operations which => exact ⟨_, rfl⟩
  | commitments => exact ⟨_, rfl⟩
  | _ => cases listed

theorem isList_of_entryCodec {field : Field} {codec : Codec}
    (listed : field.entryCodec? preset = some codec) : field.isList = true := by
  cases field with
  | operations which => rfl
  | commitments => rfl
  | _ => cases listed

section

variable {field : Field} {codec : Codec} (listed : field.entryCodec? preset = some codec)
  {raw : Octets}

include listed

theorem read_of_readEntries {failure : Failure}
    (failed : readEntries field.name codec raw = .error failure) :
    field.read preset raw = .error failure := by
  cases field with
  | operations which =>
      obtain rfl := Option.some.inj listed
      exact bind_eq_error.2 (.inl (bind_eq_error.2 (.inl failed)))
  | commitments =>
      obtain rfl := Option.some.inj listed
      exact bind_eq_error.2 (.inl failed)
  | _ => cases listed

/-- Once the entries are read, a mismatch is about all of them. -/
theorem readEntries_or_whole {name : Text} {m : Mismatch} {index : Option Int}
    (failed : field.read preset raw = .error (.field name (some (.mismatch m)) index)) :
    readEntries field.name codec raw = .error (.field name (some (.mismatch m)) index) ∨
      m.path = [] ∧ index = none := by
  have counted {entries : List (Option Value)}
      (unlisted : listValue preset field.name entries =
        .error (.field name (some (.mismatch m)) index)) : m.path = [] ∧ index = none := by
    unfold listValue at unlisted
    simp only at unlisted
    split at unlisted
    · cases unlisted
      exact ⟨rfl, rfl⟩
    · cases unlisted
  cases field with
  | operations which =>
      obtain rfl := Option.some.inj listed
      rw [Field.read, bind_eq_error] at failed
      rcases failed with unread | ⟨entries, -, unlisted⟩
      · rw [readOperations, bind_eq_error] at unread
        rcases unread with unread | ⟨entries, -, null⟩
        · exact .inl unread
        · split at null <;> cases null
      · exact .inr (counted unlisted)
  | commitments =>
      obtain rfl := Option.some.inj listed
      rw [Field.read, bind_eq_error] at failed
      rcases failed with unread | ⟨entries, -, unlisted⟩
      · exact .inl unread
      · exact .inr (counted unlisted)
  | _ => cases listed

end

/-- The first entry of an array that is not read. -/
inductive FirstUnread (codec : Codec) : Json → Nat → Mismatch → Prop where
  | entry {front back : List Json} {j : Json} {m : Mismatch}
      (earlier : ∀ item ∈ front, ∃ entry, codec.fromJson item = .ok entry)
      (failed : codec.fromJson j = .error (.mismatch m)) :
      FirstUnread codec (.arr (front ++ j :: back)) front.length m

theorem readEntries_of_firstUnread {codec : Codec} {raw : Octets} {array : Json} {i : Nat}
    {m : Mismatch} (name : Text) (loaded : Json.load (.octets raw) = .ok array)
    (unread : FirstUnread codec array i m) :
    readEntries name codec raw =
      .error (.field name (some (.mismatch (m.within (.index i)))) (some i)) := by
  cases unread with
  | @entry front back j m earlier failed =>
      have refused : codec.listFromJson (.arr (front ++ j :: back)) =
          .error (.mismatch (m.within (.index front.length))) := by
        rw [Codec.listFromJson_arr, Wire.entries_eq_error]
        exact ⟨front, j, back, _, rfl, earlier, failed, rfl⟩
      rw [readEntries_of_load name codec loaded, refused]
      rfl

/-- Entries are read one by one, so a mismatch is about one of them or has no path. -/
theorem entry_or_whole {codec : Codec} {raw : Octets} {name name' : Text} {m : Mismatch}
    {index : Option Int}
    (failed : readEntries name codec raw = .error (.field name' (some (.mismatch m)) index)) :
    (∃ array i m', Json.load (.octets raw) = .ok array ∧ FirstUnread codec array i m' ∧
        m = m'.within (.index i) ∧ index = some (i : Int)) ∨
      m.path = [] ∧ index = none := by
  obtain ⟨r, refused, blamed⟩ := mapError_eq_error.1 failed
  cases r with
  | unsupported type => cases blamed
  | mismatch cause =>
      cases blamed
      rw [Codec.decodeList, bind_eq_error] at refused
      rcases refused with unloaded | ⟨array, loaded, refused⟩
      · obtain ⟨fault, -, invalid⟩ := mapError_eq_error.1 unloaded
        cases invalid
        exact .inr ⟨rfl, rfl⟩
      · cases array with
        | null => cases refused
        | arr items =>
            rw [Codec.listFromJson_arr, Wire.entries_eq_error] at refused
            obtain ⟨front, j, back, r, rfl, earlier, unread, within⟩ := refused
            cases r with
            | unsupported type => cases within
            | mismatch m' =>
                cases within
                have loaded' := Codec.loadValue_eq_ok.1 loaded
                exact .inl ⟨_, _, m', loaded', .entry earlier unread, rfl, rfl⟩
        | _ =>
            cases refused
            exact .inr ⟨rfl, rfl⟩

/-! ## Documents -/

/-- Reading a document stops at an entry of a list field: the fields before that take their
octets, and so do the entries before it. -/
inductive EntryFails (preset : Preset) (d : Document) : Field → Nat → Mismatch → Prop where
  | mk {raws : Keyed Octets} {before after : List Field} {field : Field} {codec : Codec}
      {array : Json} {i : Nat} {m : Mismatch}
      (split : RawFields.splitDeclared (fieldNames preset) d = .ok raws)
      (parted : fieldNames preset = (before ++ field :: after).map Field.name)
      (earlier : ∀ g ∈ before, Accepts preset raws g)
      (listed : field.entryCodec? preset = some codec)
      (placed : InPlace raws field.name array) (unread : FirstUnread codec array i m) :
      EntryFails preset d field i m

theorem decode_of_entryFails {d : Document} {field : Field} {i : Nat} {m : Mismatch}
    (fails : EntryFails preset d field i m) :
    (decode preset d).outcome =
      .error (.field field.name (some (.mismatch (m.within (.index i)))) (some i)) := by
  cases fails with
  | mk split parted earlier listed placed unread =>
      rw [names_eq] at parted
      have inOrder := List.map_injective_iff.2 name_injective parted
      have failed := readEntries_of_firstUnread field.name (inPlace_iff.1 placed) unread
      rw [decode_of_first split inOrder earlier (read_of_readEntries listed failed)]

/-- A field that is put down for a failure, and how it comes to that. -/
theorem exists_field_of_cause {d : Document} {name : Text} {cause : Failure}
    {index : Option Int}
    (failed : (decode preset d).outcome = .error (.field name (some cause) index)) :
    ∃ raws before field after, RawFields.splitDeclared (fieldNames preset) d = .ok raws ∧
      order = before ++ field :: after ∧ (∀ g ∈ before, Accepts preset raws g) ∧
      field.read preset (rawOf raws field.name) = .error (.field name (some cause) index) := by
  have course := course_decode preset d
  generalize decode preset d = report at course failed
  cases course with
  | @unsplit fault =>
      match fault with
      | .unknownField name => cases failed
      | .unsplit (.malformed why) => cases failed
      | .unsplit (.unencodable fault) => cases failed
  | reads => cases failed
  | stops split parted earlier unread =>
      cases failed
      exact ⟨_, _, _, _, split, parted, earlier, unread⟩

/-- What a field's failure is caused by, and how its message shows it: an entry of a list
field with its index, and everything else as a whole. -/
inductive Shown (preset : Preset) (d : Document) : Text → Failure → Option Int → Prop where
  | entry {field : Field} {i : Nat} {m : Mismatch} (fails : EntryFails preset d field i m) :
      Shown preset d field.name (.mismatch (m.within (.index i))) (some i)
  | whole {field : Field} {m : Mismatch} (flat : m.path = [] ∨ field.isList = false) :
      Shown preset d field.name (.mismatch m) none
  | graffiti (fault : GraffitiFault) :
      Shown preset d Field.graffiti.name (.graffiti fault) none

theorem shown_of_field {d : Document} {name : Text} {cause : Failure} {index : Option Int}
    (failed : (decode preset d).outcome = .error (.field name (some cause) index)) :
    Shown preset d name cause index := by
  obtain ⟨raws, before, field, after, split, parted, earlier, unread⟩ :=
    exists_field_of_cause failed
  cases field.fails_of_read unread with
  | graffiti fault => exact .graffiti fault
  | @mismatch _ m other flat =>
      cases single : field.isList with
      | false =>
          rw [flat single]
          exact .whole (.inr single)
      | true =>
          obtain ⟨codec, listed⟩ := exists_entryCodec preset single
          have cases := (readEntries_or_whole listed unread).elim entry_or_whole .inr
          rcases cases with ⟨array, i, m', loaded, first, rfl, same⟩ | ⟨pathless, noIndex⟩
          · rw [same]
            have stands : fieldNames preset = (before ++ field :: after).map Field.name := by
              rw [names_eq, parted]
            exact .entry (.mk split stands earlier listed (inPlace_iff.2 loaded) first)
          · rw [noIndex]
            exact .whole (.inl pathless)

theorem EntryFails.isList {d : Document} {field : Field} {i : Nat} {m : Mismatch}
    (fails : EntryFails preset d field i m) : field.isList = true := by
  cases fails with
  | mk _ _ _ listed _ _ => exact isList_of_entryCodec listed

/-- An entry that fails is put down with its index, the whole path in the cause, and a message
in which nothing of that stands twice. An index stands beside a field for no other failure:
there is none just where the cause has no path or the field is no list, and then the message
has all of the cause. -/
theorem entry_failures_rendered (preset : Preset) (d : Document) :
    (∀ field i m, EntryFails preset d field i m →
      ∃ failure, (decode preset d).outcome = .error failure ∧
        failure = .field field.name
          (some (.mismatch ⟨m.absent, m.reason, .index i :: m.path⟩)) (some i) ∧
        failure.message =
          field.name ++ "[" ++ Text.ofNat i ++ "]: " ++ pathText m.path ++ m.reason.message) ∧
    ∀ name cause index, (decode preset d).outcome = .error (.field name (some cause) index) →
      (∀ i, index = some i →
        ∃ field n m, EntryFails preset d field n m ∧ name = field.name ∧ i = (n : Int)) ∧
      (index = none ↔ cause.causePath = [] ∨ name ∉ listFields.map Field.name) ∧
      (index = none →
        (∃ m, cause = .mismatch m ∧ (Failure.field name (some cause) index).message =
          name ++ ": " ++ pathText m.path ++ m.reason.message) ∨
        ∃ fault, cause = .graffiti fault ∧ (Failure.field name (some cause) index).message =
          name ++ ": " ++ fault.message) := by
  constructor
  · intro field i m fails
    exact ⟨_, decode_of_entryFails fails, rfl, Failure.message_of_entry field.name m i⟩
  · intro name cause index failed
    cases shown_of_field failed with
    | @entry field i m fails =>
        refine ⟨?_, ?_, by simp⟩
        · intro i' same
          exact ⟨field, i, m, fails, rfl, (Option.some.inj same).symm⟩
        · simp [Failure.causePath, Mismatch.within, mem_listNames, fails.isList]
    | @whole field m flat =>
        refine ⟨by simp, ?_, fun _ => .inl ⟨m, rfl, Failure.message_of_mismatch field.name m⟩⟩
        simpa [Failure.causePath, mem_listNames] using flat
    | graffiti fault =>
        have pathless : (Failure.graffiti fault).causePath = [] := rfl
        refine ⟨by simp, by simp [pathless], fun _ => .inr ⟨fault, rfl, rfl⟩⟩

/-- A slashing of which one number is no number, behind a null entry. -/
def indexedSlashings : Json :=
  .arr [.null, .obj [("attestation_1",
    .obj [("attesting_indices", .arr [.str "7", .str "x"])])]]

theorem readable_indexedSlashings : Json.Readable 4 indexedSlashings := by
  have plain {t : Text} (noSurrogate : ∀ c ∈ t, c.isSurrogate = false) : Json.Unpaired t :=
    Json.unpaired_of_plain noSurrogate
  have digits : Json.Readable 1 (.arr [.str "7", .str "x"]) := by
    apply Json.Readable.arr
    rw [List.forall_mem_cons, List.forall_mem_singleton]
    exact ⟨.str _ (plain (by decide)), .str _ (plain (by decide))⟩
  apply Json.Readable.arr
  rw [List.forall_mem_cons, List.forall_mem_singleton]
  exact ⟨.null _, .single (plain (by decide)) (.single (plain (by decide)) digits)⟩

def indexedFields : List (Text × Text) :=
  slashedFields.take 3 ++ [(("attester_slashings" : Text), Json.print indexedSlashings)]

def indexed : Document := .octets (Utf8.encode (laidOut false indexedFields))

def indexedRaws : Keyed Octets := indexedFields.map fun field => (field.1, Utf8.encode field.2)

def indexedMismatch : Mismatch :=
  ⟨false, .notDecimal (.str "x"),
    [.field "attestation_1", .field "attesting_indices", .index 1]⟩

theorem entry_failures_rendered_indexed :
    EntryFails .minimal indexed (.operations .attesterSlashings) 1 indexedMismatch ∧
      ∃ failure, (decode .minimal indexed).outcome = .error failure ∧
        failure.message = "attester_slashings[1]: attestation_1.attesting_indices.1: " ++
          "expected decimal string, got 'x'" := by
  have split : RawFields.splitDeclared (fieldNames .minimal) indexed = .ok indexedRaws := by
    decide +kernel
  have earlier : ∀ g ∈ order.take 4, Accepts .minimal indexedRaws g := by
    have each : (order.take 4).all
        (fun g => (g.read .minimal (rawOf indexedRaws g.name)).isOk) = true := by decide +kernel
    intro g mem
    exact exists_of_isOk (List.all_eq_true.1 each g mem)
  have parted : fieldNames .minimal =
      (order.take 4 ++ .operations .attesterSlashings :: order.drop 5).map Field.name := rfl
  have written : rawOf indexedRaws "attester_slashings" = indexedSlashings.encode := by
    decide +kernel
  have placed : InPlace indexedRaws "attester_slashings" indexedSlashings := by
    rw [inPlace_iff, written]
    exact Json.load_encode (readable_indexedSlashings.mono (by decide))
  have unread : FirstUnread (Operations.attesterSlashings.codec .minimal) indexedSlashings 1
      indexedMismatch := by
    have first : ∀ item ∈ [Json.null], ∃ entry,
        (Operations.attesterSlashings.codec .minimal).fromJson item = .ok entry := by
      rw [List.forall_mem_singleton]
      exact ⟨none, rfl⟩
    exact .entry first rfl
  have fails : EntryFails .minimal indexed (.operations .attesterSlashings) 1 indexedMismatch :=
    .mk split parted earlier rfl placed unread
  obtain ⟨failure, outcome, -, message⟩ := (entry_failures_rendered .minimal indexed).1 _ _ _ fails
  refine ⟨fails, failure, outcome, ?_⟩
  rw [message]
  decide +kernel

end Body

end BlockWire
