/- # Presets

A preset fixes the sizes of the consensus types. Seven sizes depend on it; the rest
are the same under every preset. -/
import BlockWire.Text.CodePoint

namespace BlockWire

set_option autoImplicit false

inductive Preset where
  | mainnet
  | minimal
deriving DecidableEq

namespace Preset

def name : Preset → Text
  | .mainnet => "mainnet"
  | .minimal => "minimal"

def all : List Preset := [.mainnet, .minimal]

def ofName? (name : Text) : Option Preset := all.find? fun preset => preset.name == name

end Preset

/-- The sizes that depend on the preset. -/
inductive PresetSize where
  | validatorsPerCommittee
  | committeesPerSlot
  | syncCommittee
  | withdrawals
  | blobCommitments
  | depositRequests
  | withdrawalRequests
deriving DecidableEq

namespace PresetSize

def all : List PresetSize :=
  [.validatorsPerCommittee, .committeesPerSlot, .syncCommittee, .withdrawals,
    .blobCommitments, .depositRequests, .withdrawalRequests]

def name : PresetSize → Text
  | .validatorsPerCommittee => "MAX_VALIDATORS_PER_COMMITTEE"
  | .committeesPerSlot => "MAX_COMMITTEES_PER_SLOT"
  | .syncCommittee => "SYNC_COMMITTEE_SIZE"
  | .withdrawals => "MAX_WITHDRAWALS_PER_PAYLOAD"
  | .blobCommitments => "MAX_BLOB_COMMITMENTS_PER_BLOCK"
  | .depositRequests => "MAX_DEPOSIT_REQUESTS_PER_PAYLOAD"
  | .withdrawalRequests => "MAX_WITHDRAWAL_REQUESTS_PER_PAYLOAD"

def ofName? (name : Text) : Option PresetSize := all.find? fun size => size.name == name

def value : PresetSize → Preset → Nat
  | .validatorsPerCommittee, _ => 2048
  | .committeesPerSlot, .mainnet => 64
  | .committeesPerSlot, .minimal => 4
  | .syncCommittee, .mainnet => 512
  | .syncCommittee, .minimal => 32
  | .withdrawals, .mainnet => 16
  | .withdrawals, .minimal => 4
  | .blobCommitments, .mainnet => 4096
  | .blobCommitments, .minimal => 32
  | .depositRequests, .mainnet => 8192
  | .depositRequests, .minimal => 4
  | .withdrawalRequests, .mainnet => 16
  | .withdrawalRequests, .minimal => 2

end PresetSize

/-! The sizes that no preset changes. -/
namespace FixedSize

def depositTreeDepth : Nat := 32
def proposerSlashings : Nat := 16
def deposits : Nat := 16
def voluntaryExits : Nat := 16
def logsBloomBytes : Nat := 256
def extraDataBytes : Nat := 32
def transactionBytes : Nat := 0x40000000
def transactions : Nat := 0x100000
def blsToExecutionChanges : Nat := 16
def attesterSlashings : Nat := 1
def attestations : Nat := 8
def consolidationRequests : Nat := 2

def all : List (Text × Nat) :=
  [("DEPOSIT_CONTRACT_TREE_DEPTH", depositTreeDepth),
    ("MAX_PROPOSER_SLASHINGS", proposerSlashings),
    ("MAX_DEPOSITS", deposits),
    ("MAX_VOLUNTARY_EXITS", voluntaryExits),
    ("BYTES_PER_LOGS_BLOOM", logsBloomBytes),
    ("MAX_EXTRA_DATA_BYTES", extraDataBytes),
    ("MAX_BYTES_PER_TRANSACTION", transactionBytes),
    ("MAX_TRANSACTIONS_PER_PAYLOAD", transactions),
    ("MAX_BLS_TO_EXECUTION_CHANGES", blsToExecutionChanges),
    ("MAX_ATTESTER_SLASHINGS_ELECTRA", attesterSlashings),
    ("MAX_ATTESTATIONS_ELECTRA", attestations),
    ("MAX_CONSOLIDATION_REQUESTS_PER_PAYLOAD", consolidationRequests)]

end FixedSize

end BlockWire
