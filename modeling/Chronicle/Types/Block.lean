import Chronicle.Types.Ledger

set_option autoImplicit false

namespace Chronicle

inductive Input where
  | utxo (outputId : OutputId)
  | treasury (milestoneId : Nat)
deriving DecidableEq, Repr

-- `TransactionEssence::Regular`, the only essence variant.
structure TransactionEssence where
  inputs : List Input
  outputs : List Output
deriving DecidableEq, Repr

structure TransactionPayload where
  transactionId : Nat
  essence : TransactionEssence
deriving DecidableEq, Repr

structure MilestonePayload where
  milestoneId : Nat
deriving DecidableEq, Repr

structure TreasuryTransactionPayload where
  inputMilestoneId : Nat
deriving DecidableEq, Repr

structure TaggedDataPayload where
  tag : List UInt8
  data : List UInt8
deriving DecidableEq, Repr

inductive Payload where
  | transaction (payload : TransactionPayload)
  | milestone (payload : MilestonePayload)
  | treasuryTransaction (payload : TreasuryTransactionPayload)
  | taggedData (payload : TaggedDataPayload)
deriving DecidableEq, Repr

def Payload.kind : Payload → String
  | .transaction _ => "transaction"
  | .milestone _ => "milestone"
  | .treasuryTransaction _ => "treasury_transaction"
  | .taggedData _ => "tagged_data"

structure WrongPayloadError where
  expected : String
  found : String
deriving DecidableEq, Repr

-- The body of `impl_coerce_payload!`, shared by its four instances below.
def coercePayload {T : Type} (kind : String) (variant : Payload → Option T) (value : Payload) :
    Except WrongPayloadError T :=
  match variant value with
  | some payload => .ok payload
  | none => .error { expected := kind, found := value.kind }

def TransactionPayload.tryFrom : Payload → Except WrongPayloadError TransactionPayload :=
  coercePayload "transaction" fun | .transaction payload => some payload | _ => none

def MilestonePayload.tryFrom : Payload → Except WrongPayloadError MilestonePayload :=
  coercePayload "milestone" fun | .milestone payload => some payload | _ => none

def TreasuryTransactionPayload.tryFrom :
    Payload → Except WrongPayloadError TreasuryTransactionPayload :=
  coercePayload "treasury_transaction" fun
    | .treasuryTransaction payload => some payload
    | _ => none

def TaggedDataPayload.tryFrom : Payload → Except WrongPayloadError TaggedDataPayload :=
  coercePayload "tagged_data" fun | .taggedData payload => some payload | _ => none

section Coercion

variable {T : Type} (kind : String) (variant : Payload → Option T) (value : Payload)

theorem coercePayload_ok_iff (payload : T) :
    coercePayload kind variant value = .ok payload ↔ variant value = some payload := by
  cases found : variant value <;> simp [coercePayload, found]

theorem coercePayload_error_iff (projects : (variant value).isSome ↔ value.kind = kind) :
    coercePayload kind variant value = .error ⟨kind, value.kind⟩ ↔ value.kind ≠ kind := by
  cases found : variant value <;> simp_all [coercePayload]

end Coercion

theorem payload_coercions_accept_exactly_their_kind (value : Payload) :
    (TransactionPayload.tryFrom value = .error ⟨"transaction", value.kind⟩ ↔
        value.kind ≠ "transaction") ∧
      (MilestonePayload.tryFrom value = .error ⟨"milestone", value.kind⟩ ↔
        value.kind ≠ "milestone") ∧
      (TreasuryTransactionPayload.tryFrom value = .error ⟨"treasury_transaction", value.kind⟩ ↔
        value.kind ≠ "treasury_transaction") ∧
      (TaggedDataPayload.tryFrom value = .error ⟨"tagged_data", value.kind⟩ ↔
        value.kind ≠ "tagged_data") ∧
      (∀ payload, TransactionPayload.tryFrom value = .ok payload ↔
        value = .transaction payload) ∧
      (∀ payload, MilestonePayload.tryFrom value = .ok payload ↔ value = .milestone payload) ∧
      (∀ payload, TreasuryTransactionPayload.tryFrom value = .ok payload ↔
        value = .treasuryTransaction payload) ∧
      (∀ payload, TaggedDataPayload.tryFrom value = .ok payload ↔ value = .taggedData payload) := by
  refine ⟨coercePayload_error_iff _ _ _ ?_, coercePayload_error_iff _ _ _ ?_,
    coercePayload_error_iff _ _ _ ?_, coercePayload_error_iff _ _ _ ?_,
    fun payload => (coercePayload_ok_iff _ _ _ payload).trans ?_,
    fun payload => (coercePayload_ok_iff _ _ _ payload).trans ?_,
    fun payload => (coercePayload_ok_iff _ _ _ payload).trans ?_,
    fun payload => (coercePayload_ok_iff _ _ _ payload).trans ?_⟩
  all_goals cases value <;> simp [Payload.kind]

structure Block where
  payload : Option Payload
deriving DecidableEq, Repr

structure BlockMetadata where
  inclusionState : LedgerInclusionState
  referencedByMilestoneIndex : Nat
deriving DecidableEq, Repr

structure BlockData where
  block : Block
  metadata : BlockMetadata
deriving DecidableEq, Repr

end Chronicle
