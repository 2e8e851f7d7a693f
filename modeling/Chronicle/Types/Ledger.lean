import Mathlib.Data.Finset.Basic

set_option autoImplicit false

namespace Chronicle

structure MilestoneIndexTimestamp where
  milestoneIndex : Nat
  milestoneTimestamp : Nat
deriving DecidableEq, Repr

-- `OutputId { transaction_id, index: u16 }`
structure OutputId where
  transactionId : Nat
  index : UInt16
deriving DecidableEq, Repr

inductive Address where
  | ed25519 (hash : Nat)
  | alias (aliasId : Nat)
  | nft (nftId : Nat)
deriving DecidableEq, Repr

-- Modelled from the spec: the output kinds with the address `owning_address` reads.
inductive Output where
  | treasury
  | basic (address : Address)
  | alias (stateControllerAddress : Address)
  | nft (address : Address)
  | foundry (immutableAliasAddress : Address)
deriving DecidableEq, Repr

-- Modelled from the spec: `Output::owning_address`
def Output.owningAddress : Output → Option Address
  | .treasury => none
  | .basic address => some address
  | .alias stateControllerAddress => some stateControllerAddress
  | .nft address => some address
  | .foundry immutableAliasAddress => some immutableAliasAddress

structure LedgerOutput where
  outputId : OutputId
  booked : MilestoneIndexTimestamp
  output : Output
deriving DecidableEq, Repr

structure LedgerSpent where
  output : LedgerOutput
deriving DecidableEq, Repr

inductive LedgerInclusionState where
  | conflicting
  | included
  | noTransaction
deriving DecidableEq, Repr

end Chronicle
