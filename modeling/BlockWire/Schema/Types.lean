/- # The types a block body is made of

One definition a type, from the scalars up to the body itself. A type that depends on
the preset takes it as its argument. They can be asked for by name: the scalars, the byte
strings and what the protocol calls them, and every container. `View` names the one type
that has no JSON shape. -/
import BlockWire.Keyed
import BlockWire.Schema.Preset
import BlockWire.Ssz.Ty

namespace BlockWire.Schema

set_option autoImplicit false

/-! ## Scalars and byte strings -/

def uint64 : Ty := .uint 64
def uint256 : Ty := .uint 256
def bytes20 : Ty := .byteVector 20
def bytes32 : Ty := .byteVector 32
def bytes48 : Ty := .byteVector 48
def bytes96 : Ty := .byteVector 96

/-- A transaction is bytes that only the execution layer reads. -/
def transaction : Ty := .list (.uint 8) FixedSize.transactionBytes

/-! ## Attestations and slashings -/

def checkpoint : Ty := .container "Checkpoint" [("epoch", uint64), ("root", bytes32)]

def attestationData : Ty :=
  .container "AttestationData"
    [("slot", uint64), ("index", uint64), ("beacon_block_root", bytes32),
      ("source", checkpoint), ("target", checkpoint)]

/-- The validators that a slot's committees can hold together. -/
def committeeMembers (preset : Preset) : Nat :=
  PresetSize.validatorsPerCommittee.value preset * PresetSize.committeesPerSlot.value preset

def attestation (preset : Preset) : Ty :=
  .container "Attestation"
    [("aggregation_bits", .bitlist (committeeMembers preset)), ("data", attestationData),
      ("signature", bytes96),
      ("committee_bits", .bitvector (PresetSize.committeesPerSlot.value preset))]

def indexedAttestation (preset : Preset) : Ty :=
  .container "IndexedAttestation"
    [("attesting_indices", .list uint64 (committeeMembers preset)), ("data", attestationData),
      ("signature", bytes96)]

def attesterSlashing (preset : Preset) : Ty :=
  .container "AttesterSlashing"
    [("attestation_1", indexedAttestation preset), ("attestation_2", indexedAttestation preset)]

def beaconBlockHeader : Ty :=
  .container "BeaconBlockHeader"
    [("slot", uint64), ("proposer_index", uint64), ("parent_root", bytes32),
      ("state_root", bytes32), ("body_root", bytes32)]

def signedBeaconBlockHeader : Ty :=
  .container "SignedBeaconBlockHeader" [("message", beaconBlockHeader), ("signature", bytes96)]

def proposerSlashing : Ty :=
  .container "ProposerSlashing"
    [("signed_header_1", signedBeaconBlockHeader), ("signed_header_2", signedBeaconBlockHeader)]

/-! ## Deposits and exits -/

def eth1Data : Ty :=
  .container "Eth1Data"
    [("deposit_root", bytes32), ("deposit_count", uint64), ("block_hash", bytes32)]

def depositData : Ty :=
  .container "DepositData"
    [("pubkey", bytes48), ("withdrawal_credentials", bytes32), ("amount", uint64),
      ("signature", bytes96)]

/-- The proof has one hash for each level of the deposit tree and one for its length. -/
def deposit : Ty :=
  .container "Deposit"
    [("proof", .vector bytes32 (FixedSize.depositTreeDepth + 1)), ("data", depositData)]

def voluntaryExit : Ty :=
  .container "VoluntaryExit" [("epoch", uint64), ("validator_index", uint64)]

def signedVoluntaryExit : Ty :=
  .container "SignedVoluntaryExit" [("message", voluntaryExit), ("signature", bytes96)]

def blsToExecutionChange : Ty :=
  .container "BLSToExecutionChange"
    [("validator_index", uint64), ("from_bls_pubkey", bytes48),
      ("to_execution_address", bytes20)]

def signedBlsToExecutionChange : Ty :=
  .container "SignedBLSToExecutionChange"
    [("message", blsToExecutionChange), ("signature", bytes96)]

/-! ## Sync committee and execution -/

def syncAggregate (preset : Preset) : Ty :=
  .container "SyncAggregate"
    [("sync_committee_bits", .bitvector (PresetSize.syncCommittee.value preset)),
      ("sync_committee_signature", bytes96)]

def withdrawal : Ty :=
  .container "Withdrawal"
    [("index", uint64), ("validator_index", uint64), ("address", bytes20), ("amount", uint64)]

def executionPayload (preset : Preset) : Ty :=
  .container "ExecutionPayload"
    [("parent_hash", bytes32), ("fee_recipient", bytes20), ("state_root", bytes32),
      ("receipts_root", bytes32), ("logs_bloom", .byteVector FixedSize.logsBloomBytes),
      ("prev_randao", bytes32), ("block_number", uint64), ("gas_limit", uint64),
      ("gas_used", uint64), ("timestamp", uint64),
      ("extra_data", .list (.uint 8) FixedSize.extraDataBytes), ("base_fee_per_gas", uint256),
      ("block_hash", bytes32), ("transactions", .list transaction FixedSize.transactions),
      ("withdrawals", .list withdrawal (PresetSize.withdrawals.value preset)),
      ("blob_gas_used", uint64), ("excess_blob_gas", uint64)]

def depositRequest : Ty :=
  .container "DepositRequest"
    [("pubkey", bytes48), ("withdrawal_credentials", bytes32), ("amount", uint64),
      ("signature", bytes96), ("index", uint64)]

def withdrawalRequest : Ty :=
  .container "WithdrawalRequest"
    [("source_address", bytes20), ("validator_pubkey", bytes48), ("amount", uint64)]

def consolidationRequest : Ty :=
  .container "ConsolidationRequest"
    [("source_address", bytes20), ("source_pubkey", bytes48), ("target_pubkey", bytes48)]

def executionRequests (preset : Preset) : Ty :=
  .container "ExecutionRequests"
    [("deposits", .list depositRequest (PresetSize.depositRequests.value preset)),
      ("withdrawals", .list withdrawalRequest (PresetSize.withdrawalRequests.value preset)),
      ("consolidations", .list consolidationRequest FixedSize.consolidationRequests)]

/-! ## The block body -/

def blockBody (preset : Preset) : Ty :=
  .container "ElectraBeaconBlockBody"
    [("randao_reveal", bytes96), ("eth1_data", eth1Data), ("graffiti", bytes32),
      ("proposer_slashings", .list proposerSlashing FixedSize.proposerSlashings),
      ("attester_slashings", .list (attesterSlashing preset) FixedSize.attesterSlashings),
      ("attestations", .list (attestation preset) FixedSize.attestations),
      ("deposits", .list deposit FixedSize.deposits),
      ("voluntary_exits", .list signedVoluntaryExit FixedSize.voluntaryExits),
      ("sync_aggregate", syncAggregate preset), ("execution_payload", executionPayload preset),
      ("bls_to_execution_changes",
        .list signedBlsToExecutionChange FixedSize.blsToExecutionChanges),
      ("blob_kzg_commitments", .list bytes48 (PresetSize.blobCommitments.value preset)),
      ("execution_requests", executionRequests preset)]

/-! ## Types by name -/

def scalars : Keyed Ty :=
  [("uint8", .uint 8), ("uint16", .uint 16), ("uint32", .uint 32), ("uint64", uint64),
    ("uint128", .uint 128), ("uint256", uint256), ("boolean", .boolean),
    ("View", .shapeless "View")]

/-- Other names of scalars and byte strings. -/
def aliases : Keyed Ty :=
  [("Bytes20", bytes20), ("Bytes32", bytes32), ("Bytes48", bytes48), ("Bytes96", bytes96),
    ("Slot", uint64), ("Epoch", uint64), ("CommitteeIndex", uint64), ("ValidatorIndex", uint64),
    ("Gwei", uint64), ("WithdrawalIndex", uint64), ("Root", bytes32), ("Hash32", bytes32),
    ("BLSPubkey", bytes48), ("BLSSignature", bytes96), ("ExecutionAddress", bytes20),
    ("KZGCommitment", bytes48), ("Transaction", transaction)]

def containers (preset : Preset) : List Ty :=
  [checkpoint, attestationData, eth1Data, beaconBlockHeader, signedBeaconBlockHeader,
    proposerSlashing, depositData, deposit, voluntaryExit, signedVoluntaryExit,
    syncAggregate preset, withdrawal, blsToExecutionChange, signedBlsToExecutionChange,
    executionPayload preset, attestation preset, indexedAttestation preset,
    attesterSlashing preset, depositRequest, withdrawalRequest, consolidationRequest,
    executionRequests preset, blockBody preset]

def named (preset : Preset) : Keyed Ty :=
  scalars ++ aliases ++ (containers preset).map fun type => (type.name, type)

def ofName? (preset : Preset) (name : Text) : Option Ty := Keyed.get? (named preset) name

end BlockWire.Schema
