/- # Reading field after field

The fields are read in straight line and by a loop in the middle. `readFields_eq` says that
this comes to one step a field in the order in which the type declares them. From that
step, by induction over the fields: if every field takes its octets, each value is kept
under its name (`readFields_of_reads`), and otherwise reading ends at the first that
does not (`readFields_of_first`). So there are three ways in which the reading of a
document goes (`course_decode`). -/
import BlockWire.Proofs.Body.Fields
import BlockWire.Proofs.Keyed

namespace BlockWire.Body

set_option autoImplicit false

theorem readFields_eq (preset : Preset) (raws : Keyed Octets) :
    readFields preset raws = order.foldlM (readField preset raws) [] := by
  simp only [readFields, firstOperations, order, List.foldlM_cons, List.foldlM_nil, bind_assoc,
    bind_pure]

variable {preset : Preset} {raws : Keyed Octets}

/-- A field takes the octets it has among the raw fields. -/
def Accepts (preset : Preset) (raws : Keyed Octets) (field : Field) : Prop :=
  ∃ v, field.read preset (rawOf raws field.name) = .ok v

/-! ## One step -/

theorem readField_of_read {values : Keyed Value} {field : Field} {v : Value}
    (read : field.read preset (rawOf raws field.name) = .ok v) :
    readField preset raws values field = pure (Keyed.insert values field.name v) := by
  rw [readField, read]
  rfl

theorem readField_of_failed {values : Keyed Value} {field : Field} {failure : Failure}
    (failed : field.read preset (rawOf raws field.name) = .error failure) :
    readField preset raws values field = ⟨failure.record?.toList, .error failure⟩ := by
  rw [readField, failed]
  rfl

/-! ## The whole run -/

theorem foldlM_of_reads {fs : List Field} {values : Keyed Value} {val : Field → Value}
    (reads : ∀ field ∈ fs, field.read preset (rawOf raws field.name) = .ok (val field)) :
    fs.foldlM (readField preset raws) values =
      pure ((fs.map fun field => (field.name, val field)).foldl
        (fun values pair => Keyed.insert values pair.1 pair.2) values) := by
  induction fs generalizing values with
  | nil => rfl
  | cons field rest ih =>
      obtain ⟨here, later⟩ := List.forall_mem_cons.1 reads
      rw [List.foldlM_cons, readField_of_read here, pure_bind, ih later]
      rfl

theorem foldlM_of_first {before after : List Field} {values : Keyed Value} {field : Field}
    {failure : Failure} (earlier : ∀ g ∈ before, Accepts preset raws g)
    (failed : field.read preset (rawOf raws field.name) = .error failure) :
    (before ++ field :: after).foldlM (readField preset raws) values =
      ⟨failure.record?.toList, .error failure⟩ := by
  induction before generalizing values with
  | nil =>
      rw [List.nil_append, List.foldlM_cons, readField_of_failed failed]
      rfl
  | cons g rest ih =>
      obtain ⟨⟨v, here⟩, later⟩ := List.forall_mem_cons.1 earlier
      rw [List.cons_append, List.foldlM_cons, readField_of_read here, pure_bind]
      exact ih later

theorem keys_map {α : Type} (fs : List Field) (under : Field → α) :
    Keyed.keys (fs.map fun field => (field.name, under field)) = fs.map Field.name := by
  rw [Keyed.keys, List.map_map]
  rfl

/-- What is under a field's name among as many fields with distinct names. -/
theorem get?_map {α : Type} {fs : List Field} (distinct : (fs.map Field.name).Nodup)
    (under : Field → α) {field : Field} (mem : field ∈ fs) :
    Keyed.get? (fs.map fun field => (field.name, under field)) field.name =
      some (under field) := by
  have keys := keys_map fs under
  have member : (field.name, under field) ∈ fs.map fun field => (field.name, under field) :=
    List.mem_map_of_mem mem
  exact Keyed.get?_of_mem (keys ▸ distinct) member

/-- If every field takes its octets, each value is kept under its name, and nothing is
logged. -/
theorem readFields_of_reads {val : Field → Value}
    (reads : ∀ field : Field, field.read preset (rawOf raws field.name) = .ok (val field)) :
    readFields preset raws = ⟨[], .ok (order.map fun field => (field.name, val field))⟩ := by
  have distinct : (Keyed.keys (order.map fun field => (field.name, val field))).Nodup := by
    rw [keys_map]
    exact nodup_names
  have collected := Keyed.ofPairs_of_nodup distinct
  rw [Keyed.ofPairs] at collected
  rw [readFields_eq, foldlM_of_reads fun field _ => reads field, collected]
  rfl

/-- Reading ends at the first field that fails, with its failure and the record of it. -/
theorem readFields_of_first {before after : List Field} {field : Field} {failure : Failure}
    (parted : order = before ++ field :: after) (earlier : ∀ g ∈ before, Accepts preset raws g)
    (failed : field.read preset (rawOf raws field.name) = .error failure) :
    readFields preset raws = ⟨failure.record?.toList, .error failure⟩ := by
  rw [readFields_eq, parted]
  exact foldlM_of_first earlier failed

/-- Either every field takes its octets, or there is a first one that does not. -/
theorem accepts_or_first (preset : Preset) (raws : Keyed Octets) (fs : List Field) :
    (∀ field ∈ fs, Accepts preset raws field) ∨
      ∃ before field after failure, fs = before ++ field :: after ∧
        (∀ g ∈ before, Accepts preset raws g) ∧
        field.read preset (rawOf raws field.name) = .error failure := by
  induction fs with
  | nil => exact .inl (by simp)
  | cons field rest ih =>
      cases read : field.read preset (rawOf raws field.name) with
      | error failure => exact .inr ⟨[], field, rest, failure, rfl, by simp, read⟩
      | ok v =>
          have here : Accepts preset raws field := ⟨v, read⟩
          rcases ih with all | ⟨before, g, after, failure, rfl, earlier, failed⟩
          · exact .inl (List.forall_mem_cons.2 ⟨here, all⟩)
          · exact .inr ⟨field :: before, g, after, failure, rfl,
              List.forall_mem_cons.2 ⟨here, earlier⟩, failed⟩

/-! ## The whole document -/

theorem assemble_eq (preset : Preset) (val : Field → Value) :
    assemble (type preset).fields (order.map fun field => (field.name, val field)) =
      .record (order.map fun field => (field.name, val field)) := by
  rw [assemble, declared_eq, List.map_map]
  refine congrArg Value.record (List.map_congr_left fun field mem => ?_)
  rw [Function.comp_apply, get?_map nodup_names val mem, Option.getD_some]

/-- Once a document is split, reading it is reading its fields. -/
theorem decode_of_split {d : Document}
    (split : RawFields.splitDeclared (fieldNames preset) d = .ok raws) :
    decode preset d =
      readFields preset raws >>= fun values => pure (assemble (type preset).fields values) := by
  rw [decode, split]
  rfl

theorem decode_of_reads {d : Document} {val : Field → Value}
    (split : RawFields.splitDeclared (fieldNames preset) d = .ok raws)
    (reads : ∀ field : Field, field.read preset (rawOf raws field.name) = .ok (val field)) :
    decode preset d = ⟨[], .ok (.record (order.map fun field => (field.name, val field)))⟩ := by
  rw [decode_of_split split, readFields_of_reads reads, ← assemble_eq preset val]
  rfl

theorem decode_of_first {d : Document} {before after : List Field} {field : Field}
    {failure : Failure} (split : RawFields.splitDeclared (fieldNames preset) d = .ok raws)
    (parted : order = before ++ field :: after) (earlier : ∀ g ∈ before, Accepts preset raws g)
    (failed : field.read preset (rawOf raws field.name) = .error failure) :
    decode preset d = ⟨failure.record?.toList, .error failure⟩ := by
  rw [decode_of_split split, readFields_of_first parted earlier failed]
  rfl

/-- How the reading of a document goes: it is not split, or every field takes its octets, or
there is a first one that does not. -/
inductive Course (preset : Preset) (d : Document) : Report Failure Value → Prop where
  | unsplit {fault : RawFields.Fault}
      (failed : RawFields.splitDeclared (fieldNames preset) d = .error fault) :
      Course preset d ⟨[], .error (.ofSplit fault)⟩
  | reads {raws : Keyed Octets} {val : Field → Value}
      (split : RawFields.splitDeclared (fieldNames preset) d = .ok raws)
      (each : ∀ field : Field, field.read preset (rawOf raws field.name) = .ok (val field)) :
      Course preset d ⟨[], .ok (.record (order.map fun field => (field.name, val field)))⟩
  | stops {raws : Keyed Octets} {before after : List Field} {field : Field} {failure : Failure}
      (split : RawFields.splitDeclared (fieldNames preset) d = .ok raws)
      (parted : order = before ++ field :: after) (earlier : ∀ g ∈ before, Accepts preset raws g)
      (failed : field.read preset (rawOf raws field.name) = .error failure) :
      Course preset d ⟨failure.record?.toList, .error failure⟩

theorem course_decode (preset : Preset) (d : Document) : Course preset d (decode preset d) := by
  cases split : RawFields.splitDeclared (fieldNames preset) d with
  | error fault =>
      rw [decode, split]
      exact .unsplit split
  | ok raws =>
      rcases accepts_or_first preset raws order with
        all | ⟨before, field, after, failure, parted, earlier, failed⟩
      · choose val reads using fun field => all field (mem_order field)
        rw [decode_of_reads split reads]
        exact .reads split reads
      · rw [decode_of_first split parted earlier failed]
        exact .stops split parted earlier failed

/-- What is read is read field by field, and every field counts. -/
theorem decode_outcome_eq_ok {d : Document} {b : Value} :
    (decode preset d).outcome = .ok b ↔
      ∃ raws, RawFields.splitDeclared (fieldNames preset) d = .ok raws ∧
        ∃ val : Field → Value,
          (∀ field : Field, field.read preset (rawOf raws field.name) = .ok (val field)) ∧
          b = .record (order.map fun field => (field.name, val field)) := by
  constructor
  · intro read
    have course := course_decode preset d
    generalize decode preset d = report at course read
    cases course with
    | reads split each => exact ⟨_, split, _, each, (Except.ok.inj read).symm⟩
    | _ => cases read
  · rintro ⟨raws, split, val, reads, rfl⟩
    rw [decode_of_reads split reads]

/-- Nothing is logged about a body that is read. -/
theorem decode_of_outcome {d : Document} {b : Value} (read : (decode preset d).outcome = .ok b) :
    decode preset d = ⟨[], .ok b⟩ := by
  obtain ⟨raws, split, val, reads, rfl⟩ := decode_outcome_eq_ok.1 read
  exact decode_of_reads split reads

end BlockWire.Body
