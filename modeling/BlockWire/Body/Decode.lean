/- # Reading a block body

The object is split first, and a document that does not split fails with what the
splitter says. Then the fields are read one after the other, each from its own octets
and from `null` where it is absent. The first that cannot be read ends the reading:
its failure names the field, and one record of it is logged. -/
import BlockWire.Body.Failure
import BlockWire.Body.Fields

namespace BlockWire.Body

set_option autoImplicit false

def nullOctets : Octets := Utf8.encode "null"

/-! ## One field -/

def readSingle (name : Text) (codec : Codec) (raw : Octets) : Except Failure Value :=
  match codec.decode (.octets raw) with
  | .ok (some value) => .ok value
  | .ok none => .error (.blame name (.mismatch (.missing .valueMissing [])))
  | .error refusal => .error (.blame name refusal)

def readGraffiti (name : Text) (raw : Octets) : Except Failure Value :=
  match Graffiti.decode raw with
  | .ok octets => .ok (.bytes octets)
  | .error fault => .error (.field name (some (.graffiti fault)) none)

def readEntries (name : Text) (codec : Codec) (raw : Octets) :
    Except Failure (List (Option Value)) :=
  (codec.decodeList (.octets raw)).mapError (Failure.blame name)

/-- The index of the first entry that is null. -/
def firstNull? (entries : List (Option Value)) : Option Nat :=
  entries.findIdx? Option.isNone

/-- An entry that does not match is found before one that is null. -/
def readOperations (preset : Preset) (which : Operations) (raw : Octets) :
    Except Failure (List (Option Value)) := do
  let entries ← readEntries which.name (which.codec preset) raw
  match firstNull? entries with
  | some i => .error (.missingEntry which.name i)
  | none => .ok entries

/-- The list that a field holds. A field that the type declares as no list has no room
for entries. -/
def listValue (preset : Preset) (name : Text) (entries : List (Option Value)) :
    Except Failure Value :=
  let limit := (limit? (type preset) name).getD 0
  if limit < entries.length then
    .error (.blame name (.invalid (.tooManyEntries entries.length limit)))
  else .ok (.seq (entries.filterMap id))

/-- What one field's octets denote, whatever the other fields hold. -/
def Field.read (preset : Preset) (field : Field) (raw : Octets) : Except Failure Value :=
  match field with
  | .randaoReveal => readSingle field.name Body.randaoReveal raw
  | .graffiti => readGraffiti field.name raw
  | .required which => readSingle field.name (which.codec preset) raw
  | .operations which => do
      let entries ← readOperations preset which raw
      listValue preset field.name entries
  | .commitments => do
      let entries ← readEntries field.name commitment raw
      listValue preset field.name entries

/-! ## All fields -/

/-- An outcome with the record its failure logs. -/
def logged (outcome : Except Failure Value) : Report Failure Value :=
  match outcome with
  | .ok value => ⟨[], .ok value⟩
  | .error failure => ⟨failure.record?.toList, .error failure⟩

def rawOf (raws : Keyed Octets) (name : Text) : Octets := (Keyed.get? raws name).getD nullOctets

/-- Reads one more field, and keeps its value with those read before. -/
def readField (preset : Preset) (raws : Keyed Octets) (values : Keyed Value) (field : Field) :
    Report Failure (Keyed Value) := do
  let value ← logged (field.read preset (rawOf raws field.name))
  pure (Keyed.insert values field.name value)

/-- The lists of operations that are read one after the other. -/
def firstOperations : List Operations :=
  [.proposerSlashings, .attesterSlashings, .attestations, .deposits, .voluntaryExits]

def readFields (preset : Preset) (raws : Keyed Octets) : Report Failure (Keyed Value) := do
  let values ← readField preset raws [] .randaoReveal
  let values ← readField preset raws values (.required .eth1Data)
  let values ← readField preset raws values .graffiti
  let values ← firstOperations.foldlM
    (fun values which => readField preset raws values (.operations which)) values
  let values ← readField preset raws values (.required .syncAggregate)
  let values ← readField preset raws values (.required .executionPayload)
  let values ← readField preset raws values (.operations .blsToExecutionChanges)
  let values ← readField preset raws values .commitments
  readField preset raws values (.required .executionRequests)

/-- The record of a type, with what a field's type begins with where it is given no value. -/
def assemble (declared : List (Text × Ty)) (values : Keyed Value) : Value :=
  .record (declared.map fun field =>
    (field.1, (Keyed.get? values field.1).getD (Value.initial field.2)))

def decode (preset : Preset) (d : Document) : Report Failure Value := do
  let raws ← .ofExcept ((RawFields.splitDeclared (fieldNames preset) d).mapError .ofSplit)
  let values ← readFields preset raws
  pure (assemble (type preset).fields values)

/-- Reads a body from a value that has been read as JSON already. -/
def ofJson (preset : Preset) (j : Json) : Report Failure Value :=
  decode preset (.octets j.encode)

end BlockWire.Body
