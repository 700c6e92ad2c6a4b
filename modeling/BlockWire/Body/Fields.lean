/- # The fields of a block body

The type of a body declares the fields and their order. The codecs of the fields stand
apart from it: four fields hold one value that has to be there (`Required`), six hold a
list of operations (`Operations`), and the randao reveal, graffiti and the blob commitments
are each a case of their own. How many entries a list field may have is looked up in the
type. -/
import BlockWire.Schema.Types
import BlockWire.Wire.Codec

namespace BlockWire.Body

set_option autoImplicit false

def type (preset : Preset) : Ty := Schema.blockBody preset

/-- The names of the declared fields, in their order. -/
def fieldNames (preset : Preset) : List Text := (type preset).fields.map Prod.fst

/-- The limit of a list field of a body type. -/
def limit? (body : Ty) (name : Text) : Option Nat :=
  match Keyed.get? body.fields name with
  | some (.list _ limit) => some limit
  | _ => none

/-- A field of one value that has to be there. -/
inductive Required where
  | eth1Data
  | syncAggregate
  | executionPayload
  | executionRequests

namespace Required

def all : List Required := [.eth1Data, .syncAggregate, .executionPayload, .executionRequests]

def name : Required → Text
  | .eth1Data => "eth1_data"
  | .syncAggregate => "sync_aggregate"
  | .executionPayload => "execution_payload"
  | .executionRequests => "execution_requests"

def codec (preset : Preset) : Required → Codec
  | .eth1Data => .plain Schema.eth1Data
  | .syncAggregate => .plain (Schema.syncAggregate preset)
  | .executionPayload => .plain (Schema.executionPayload preset)
  | .executionRequests => .plain (Schema.executionRequests preset)

end Required

/-- A list of operations, in which no entry may be null. -/
inductive Operations where
  | proposerSlashings
  | attesterSlashings
  | attestations
  | deposits
  | voluntaryExits
  | blsToExecutionChanges

namespace Operations

def all : List Operations :=
  [.proposerSlashings, .attesterSlashings, .attestations, .deposits, .voluntaryExits,
    .blsToExecutionChanges]

def name : Operations → Text
  | .proposerSlashings => "proposer_slashings"
  | .attesterSlashings => "attester_slashings"
  | .attestations => "attestations"
  | .deposits => "deposits"
  | .voluntaryExits => "voluntary_exits"
  | .blsToExecutionChanges => "bls_to_execution_changes"

/-- The codec of one entry. -/
def codec (preset : Preset) : Operations → Codec
  | .proposerSlashings => .plain Schema.proposerSlashing
  | .attesterSlashings => .plain (Schema.attesterSlashing preset)
  | .attestations => .plain (Schema.attestation preset)
  | .deposits => .plain Schema.deposit
  | .voluntaryExits => .plain Schema.signedVoluntaryExit
  | .blsToExecutionChanges => .plain Schema.signedBlsToExecutionChange

end Operations

def randaoReveal : Codec := .ofLength 96

/-- The codec of one blob commitment. -/
def commitment : Codec := .ofLength 48

inductive Field where
  | randaoReveal
  | graffiti
  | required (which : Required)
  | operations (which : Operations)
  | commitments

def Field.name : Field → Text
  | .randaoReveal => "randao_reveal"
  | .graffiti => "graffiti"
  | .required which => which.name
  | .operations which => which.name
  | .commitments => "blob_kzg_commitments"

end BlockWire.Body
