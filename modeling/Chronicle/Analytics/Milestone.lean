import Chronicle.Analytics.Core
import Mathlib.Data.List.ReduceOption

set_option autoImplicit false

namespace Chronicle

universe u v

-- What `update_analytics` reads of a `Milestone`; its cone stream may fail after its blocks.
structure LedgerUpdateStore where
  getConsumed : OutputId → Option LedgerSpent
  getCreated : OutputId → Option LedgerOutput

structure Milestone where
  «at» : MilestoneIndexTimestamp
  protocolParams : ProtocolParameters
  ledgerUpdates : LedgerUpdateStore
  coneStream : List BlockData
  coneStreamError : Option String

-- `Option::ok_or`
def okOr {α ε : Type} : Option α → ε → Except ε α
  | some value, _ => .ok value
  | none, error => .error error

section Lookups

variable {α β ε : Type} (lookup : α → Option β) (missing : α → ε)

theorem mapM_okOr_of_resolved (keys : List α) (resolved : ∀ key ∈ keys, lookup key ≠ none) :
    keys.mapM (fun key => okOr (lookup key) (missing key)) = .ok (keys.filterMap lookup) := by
  induction keys with
  | nil => rfl
  | cons key keys ih =>
    obtain ⟨value, found⟩ := Option.ne_none_iff_exists'.mp (resolved key (by simp))
    rw [List.mapM_cons, found, ih fun key mem => resolved key (by simp [mem]),
      List.filterMap_cons_some found]
    rfl

theorem mapM_okOr_of_unresolved (keys : List α) (unresolved : ∃ key ∈ keys, lookup key = none) :
    ∃ error, keys.mapM (fun key => okOr (lookup key) (missing key)) = .error error := by
  induction keys with
  | nil => simp at unresolved
  | cons key keys ih =>
    cases found : lookup key with
    | none => exact ⟨missing key, by rw [List.mapM_cons, found]; rfl⟩
    | some value =>
      have later : ∃ key ∈ keys, lookup key = none := by
        obtain ⟨other, mem, none⟩ := unresolved
        rcases List.mem_cons.mp mem with rfl | mem
        · simp [found] at none
        · exact ⟨other, mem, none⟩
      obtain ⟨error, failed⟩ := ih later
      exact ⟨error, by rw [List.mapM_cons, found, failed]; rfl⟩

theorem mapM_okOr_eq_error (keys : List α) (error : ε) :
    keys.mapM (fun key => okOr (lookup key) (missing key)) = .error error ↔
      ∃ pre key post, keys = pre ++ key :: post ∧ (∀ earlier ∈ pre, lookup earlier ≠ none) ∧
        lookup key = none ∧ error = missing key := by
  induction keys with
  | nil =>
    rw [List.mapM_nil]
    simp [pure, Except.pure]
  | cons key keys ih =>
    cases found : lookup key with
    | none =>
      rw [List.mapM_cons, found]
      constructor
      · intro failed
        exact ⟨[], key, keys, rfl, by simp, found, by cases failed; rfl⟩
      · rintro ⟨pre, other, post, split, resolved, -, rfl⟩
        cases pre with
        | nil => cases split; rfl
        | cons first pre =>
          cases split
          exact absurd found (resolved key (by simp))
    | some value =>
      have later : (okOr (some value) (missing key) >>= fun value =>
          keys.mapM (fun key => okOr (lookup key) (missing key)) >>= fun values =>
            pure (value :: values)) = .error error ↔
          keys.mapM (fun key => okOr (lookup key) (missing key)) = .error error := by
        cases keys.mapM (fun key => okOr (lookup key) (missing key)) <;>
          simp [okOr, bind, Except.bind, pure, Except.pure]
      rw [List.mapM_cons, found, later, ih]
      constructor
      · rintro ⟨pre, other, post, rfl, resolved, missingOther, rfl⟩
        exact ⟨key :: pre, other, post, rfl, by simpa [found] using resolved, missingOther, rfl⟩
      · rintro ⟨pre, other, post, split, resolved, missingOther, rfl⟩
        cases pre with
        | nil =>
          cases split
          simp [found] at missingOther
        | cons first pre =>
          cases split
          exact ⟨pre, other, post, rfl, fun earlier mem => resolved earlier (by simp [mem]),
            missingOther, rfl⟩

end Lookups

def utxoOutputId : Input → Option OutputId
  | .utxo outputId => some outputId
  | _ => none

@[simp]
theorem mem_filterMap_utxoOutputId (inputs : List Input) (outputId : OutputId) :
    outputId ∈ inputs.filterMap utxoOutputId ↔ .utxo outputId ∈ inputs := by
  constructor
  · intro mem
    obtain ⟨input, found, converted⟩ := List.mem_filterMap.mp mem
    cases input with
    | utxo same => cases converted; exact found
    | treasury _ => cases converted
  · exact fun mem => List.mem_filterMap.mpr ⟨_, mem, rfl⟩

theorem filterMap_utxoOutputId_split (inputs : List Input) (resolved failing : OutputId → Prop) :
    (∃ pre outputId post, inputs.filterMap utxoOutputId = pre ++ outputId :: post ∧
        (∀ earlier ∈ pre, resolved earlier) ∧ failing outputId) ↔
      ∃ pre outputId post, inputs = pre ++ .utxo outputId :: post ∧
        (∀ earlier, .utxo earlier ∈ pre → resolved earlier) ∧ failing outputId := by
  constructor
  · rintro ⟨pre, outputId, post, split, early, fails⟩
    obtain ⟨front, back, rfl, rfl, rest⟩ := List.filterMap_eq_append_iff.mp split
    obtain ⟨skipped, input, later, rfl, none, found, -⟩ := List.filterMap_eq_cons_iff.mp rest
    cases input with
    | treasury _ => cases found
    | utxo same =>
      cases found
      refine ⟨front ++ skipped, outputId, later, by simp, fun earlier mem => ?_, fails⟩
      rcases List.mem_append.mp mem with inFront | inSkipped
      · exact early earlier ((mem_filterMap_utxoOutputId _ _).mpr inFront)
      · cases none _ inSkipped
  · rintro ⟨pre, outputId, post, rfl, early, fails⟩
    exact ⟨pre.filterMap utxoOutputId, outputId, post.filterMap utxoOutputId,
      by simp [utxoOutputId],
      fun earlier mem => early earlier ((mem_filterMap_utxoOutputId _ _).mp mem), fails⟩

-- `(payload.transaction_id, index as _).into()`: the index is cast to the `u16` of `OutputId`.
def createdOutputId (transactionId index : Nat) : OutputId := ⟨transactionId, index.toUInt16⟩

theorem range_eq_append_cons {n index : Nat} {pre post : List Nat}
    (split : List.range n = pre ++ index :: post) : pre = List.range index ∧ index < n := by
  have length : pre.length < n := by
    have := congrArg List.length split
    simp only [List.length_range, List.length_append, List.length_cons] at this
    omega
  have found : (List.range n)[pre.length]? = some index := by
    rw [split, List.getElem?_append_right (Nat.le_refl _), Nat.sub_self]
    simp
  rw [List.getElem?_range length, Option.some.injEq] at found
  subst found
  refine ⟨?_, length⟩
  have front := congrArg (List.take pre.length) split
  rwa [List.take_range, Nat.min_eq_left length.le, List.take_left, eq_comm] at front

def includedTransaction (blockData : BlockData) : Option TransactionPayload :=
  if blockData.metadata.inclusionState = .included then
    match blockData.block.payload with
    | some (.transaction payload) => some payload
    | _ => none
  else none

theorem includedTransaction_eq_some (blockData : BlockData) (payload : TransactionPayload) :
    includedTransaction blockData = some payload ↔
      blockData.metadata.inclusionState = .included ∧
        blockData.block.payload = some (.transaction payload) := by
  unfold includedTransaction
  split_ifs with included
  · rcases blockData.block.payload with _ | (_ | _ | _ | _) <;> simp [included]
  · simp [included]

namespace Milestone

variable (milestone : Milestone) {σ : Type u} {M : Type v}

-- `impl AnalyticsContext for Milestone`
def context : AnalyticsContext := ⟨milestone.protocolParams, milestone.at⟩

@[simp] theorem context_at : milestone.context.at = milestone.at := rfl

def consumed (blockData : BlockData) (inputs : List Input) :
    Except AnalyticsError (List LedgerSpent) :=
  (inputs.filterMap utxoOutputId).mapM fun outputId =>
    okOr (milestone.ledgerUpdates.getConsumed outputId)
      (.missingLedgerSpent outputId blockData.metadata.referencedByMilestoneIndex)

def created (blockData : BlockData) (payload : TransactionPayload) :
    Except AnalyticsError (List LedgerOutput) :=
  (List.range payload.essence.outputs.length).mapM fun index =>
    okOr (milestone.ledgerUpdates.getCreated (createdOutputId payload.transactionId index))
      (.missingLedgerOutput (createdOutputId payload.transactionId index)
        blockData.metadata.referencedByMilestoneIndex)

theorem consumed_eq_ok (blockData : BlockData) (inputs : List Input)
    (resolved : ∀ outputId ∈ inputs.filterMap utxoOutputId,
      milestone.ledgerUpdates.getConsumed outputId ≠ none) :
    milestone.consumed blockData inputs =
      .ok ((inputs.filterMap utxoOutputId).filterMap milestone.ledgerUpdates.getConsumed) :=
  mapM_okOr_of_resolved _ _ _ resolved

theorem consumed_eq_error (blockData : BlockData) (inputs : List Input)
    (unresolved : ∃ outputId ∈ inputs.filterMap utxoOutputId,
      milestone.ledgerUpdates.getConsumed outputId = none) :
    ∃ error, milestone.consumed blockData inputs = .error error :=
  mapM_okOr_of_unresolved _ _ _ unresolved

theorem created_eq_ok (blockData : BlockData) (payload : TransactionPayload)
    (resolved : ∀ index < payload.essence.outputs.length,
      milestone.ledgerUpdates.getCreated (createdOutputId payload.transactionId index) ≠ none) :
    milestone.created blockData payload =
      .ok ((List.range payload.essence.outputs.length).filterMap fun index =>
        milestone.ledgerUpdates.getCreated (createdOutputId payload.transactionId index)) :=
  mapM_okOr_of_resolved _ _ _ fun index mem => resolved index (List.mem_range.mp mem)

theorem created_eq_error (blockData : BlockData) (payload : TransactionPayload)
    (unresolved : ∃ index < payload.essence.outputs.length,
      milestone.ledgerUpdates.getCreated (createdOutputId payload.transactionId index) = none) :
    ∃ error, milestone.created blockData payload = .error error :=
  let ⟨index, bound, missing⟩ := unresolved
  mapM_okOr_of_unresolved _ _ _ ⟨index, List.mem_range.mpr bound, missing⟩

theorem consumed_eq_error_iff (blockData : BlockData) (inputs : List Input)
    (error : AnalyticsError) :
    milestone.consumed blockData inputs = .error error ↔
      ∃ pre outputId post, inputs.filterMap utxoOutputId = pre ++ outputId :: post ∧
        (∀ earlier ∈ pre, milestone.ledgerUpdates.getConsumed earlier ≠ none) ∧
        milestone.ledgerUpdates.getConsumed outputId = none ∧
        error = .missingLedgerSpent outputId blockData.metadata.referencedByMilestoneIndex :=
  mapM_okOr_eq_error _ _ _ _

theorem created_eq_error_iff (blockData : BlockData) (payload : TransactionPayload)
    (error : AnalyticsError) :
    milestone.created blockData payload = .error error ↔
      ∃ index < payload.essence.outputs.length,
        (∀ earlier < index,
          milestone.ledgerUpdates.getCreated (createdOutputId payload.transactionId earlier) ≠ none) ∧
        milestone.ledgerUpdates.getCreated (createdOutputId payload.transactionId index) = none ∧
        error = .missingLedgerOutput (createdOutputId payload.transactionId index)
          blockData.metadata.referencedByMilestoneIndex := by
  rw [created, mapM_okOr_eq_error]
  constructor
  · rintro ⟨pre, index, post, split, resolved, missing, rfl⟩
    obtain ⟨rfl, bound⟩ := range_eq_append_cons split
    exact ⟨index, bound, fun earlier below => resolved earlier (List.mem_range.mpr below),
      missing, rfl⟩
  · rintro ⟨index, bound, resolved, missing, rfl⟩
    obtain ⟨pre, post, split⟩ := List.append_of_mem (List.mem_range.mpr bound)
    obtain ⟨rfl, -⟩ := range_eq_append_cons split
    exact ⟨List.range index, index, post, split,
      fun earlier mem => resolved earlier (List.mem_range.mp mem), missing, rfl⟩

def handleBlock (A : Analytics σ M) (blockData : BlockData) (analytics : σ) :
    Except AnalyticsError Unit × σ :=
  match includedTransaction blockData with
  | none => (.ok (), A.handleBlock blockData milestone.context analytics)
  | some payload =>
    match milestone.consumed blockData payload.essence.inputs,
        milestone.created blockData payload with
    | .ok consumed, .ok created =>
      (.ok (), A.handleBlock blockData milestone.context
        (A.handleTransaction consumed created milestone.context analytics))
    | .error error, _ => (.error error, analytics)
    | .ok _, .error error => (.error error, analytics)

-- The `while let Some(block_data) = cone_stream.try_next()` loop of `update_analytics`.
def handleCone (A : Analytics σ M) : List BlockData → σ → Except AnalyticsError Unit × σ
  | [], analytics => (.ok (), analytics)
  | blockData :: rest, analytics =>
    match milestone.handleBlock A blockData analytics with
    | (.ok (), analytics) => handleCone A rest analytics
    | (.error error, analytics) => (.error error, analytics)

def endMilestone (A : Analytics σ M) (analytics : σ) (influxdb : InfluxDb (PerMilestone M)) :
    Except Report Unit × σ × InfluxDb (PerMilestone M) :=
  match A.dyn.endMilestone milestone.context analytics with
  | (none, analytics) => (.ok (), analytics, influxdb)
  | (some measurement, analytics) =>
    match influxdb.insertMeasurement measurement with
    | .ok influxdb => (.ok (), analytics, influxdb)
    | .error message => (.error (.influxDb message), analytics, influxdb)

def updateAnalytics (A : Analytics σ M) (analytics : σ) (influxdb : InfluxDb (PerMilestone M)) :
    Except Report Unit × σ × InfluxDb (PerMilestone M) :=
  match milestone.handleCone A milestone.coneStream analytics with
  | (.error error, analytics) => (.error (.analytics error), analytics, influxdb)
  | (.ok (), analytics) =>
    match milestone.coneStreamError with
    | some message => (.error (.mongoDb message), analytics, influxdb)
    | none => milestone.endMilestone A analytics influxdb

def Unresolved (blockData : BlockData) : Prop :=
  blockData.metadata.inclusionState = .included ∧
    ∃ payload, blockData.block.payload = some (.transaction payload) ∧
      ((∃ outputId, .utxo outputId ∈ payload.essence.inputs ∧
          milestone.ledgerUpdates.getConsumed outputId = none) ∨
        ∃ j < payload.essence.outputs.length,
          milestone.ledgerUpdates.getCreated ⟨payload.transactionId, j.toUInt16⟩ = none)

def UnresolvedIn (payload : TransactionPayload) : Prop :=
  (∃ outputId ∈ payload.essence.inputs.filterMap utxoOutputId,
      milestone.ledgerUpdates.getConsumed outputId = none) ∨
    ∃ index < payload.essence.outputs.length,
      milestone.ledgerUpdates.getCreated (createdOutputId payload.transactionId index) = none

theorem unresolved_iff_included (blockData : BlockData) :
    milestone.Unresolved blockData ↔
      ∃ payload, includedTransaction blockData = some payload ∧ milestone.UnresolvedIn payload := by
  simp only [Unresolved, UnresolvedIn, includedTransaction_eq_some, mem_filterMap_utxoOutputId,
    createdOutputId, and_assoc]
  exact ⟨fun ⟨included, payload, found, unresolved⟩ => ⟨payload, included, found, unresolved⟩,
    fun ⟨payload, included, found, unresolved⟩ => ⟨included, payload, found, unresolved⟩⟩

instance (payload : TransactionPayload) : Decidable (milestone.UnresolvedIn payload) :=
  inferInstanceAs (Decidable (_ ∨ _))

instance (blockData : BlockData) : Decidable (milestone.Unresolved blockData) :=
  match found : includedTransaction blockData with
  | none => isFalse (by simp [unresolved_iff_included, found])
  | some payload =>
    decidable_of_iff (milestone.UnresolvedIn payload) (by simp [unresolved_iff_included, found])

-- Modelled from the spec: the error `handle_block` reports.
def MissingError (blockData : BlockData) (error : AnalyticsError) : Prop :=
  blockData.metadata.inclusionState = .included ∧
    ∃ payload, blockData.block.payload = some (.transaction payload) ∧
      ((∃ pre outputId post, payload.essence.inputs = pre ++ .utxo outputId :: post ∧
          (∀ earlier, .utxo earlier ∈ pre → milestone.ledgerUpdates.getConsumed earlier ≠ none) ∧
          milestone.ledgerUpdates.getConsumed outputId = none ∧
          error = .missingLedgerSpent outputId blockData.metadata.referencedByMilestoneIndex) ∨
        ((∀ outputId, .utxo outputId ∈ payload.essence.inputs →
            milestone.ledgerUpdates.getConsumed outputId ≠ none) ∧
          ∃ j < payload.essence.outputs.length,
            (∀ i < j,
              milestone.ledgerUpdates.getCreated ⟨payload.transactionId, i.toUInt16⟩ ≠ none) ∧
            milestone.ledgerUpdates.getCreated ⟨payload.transactionId, j.toUInt16⟩ = none ∧
            error = .missingLedgerOutput ⟨payload.transactionId, j.toUInt16⟩
              blockData.metadata.referencedByMilestoneIndex))

theorem missingError_iff_included (blockData : BlockData) (error : AnalyticsError) :
    milestone.MissingError blockData error ↔
      ∃ payload, includedTransaction blockData = some payload ∧
        (milestone.consumed blockData payload.essence.inputs = .error error ∨
          (∀ outputId ∈ payload.essence.inputs.filterMap utxoOutputId,
              milestone.ledgerUpdates.getConsumed outputId ≠ none) ∧
            milestone.created blockData payload = .error error) := by
  simp only [MissingError, includedTransaction_eq_some, consumed_eq_error_iff,
    created_eq_error_iff, filterMap_utxoOutputId_split, mem_filterMap_utxoOutputId,
    createdOutputId, and_assoc]
  exact ⟨fun ⟨included, payload, found, missing⟩ => ⟨payload, included, found, missing⟩,
    fun ⟨payload, included, found, missing⟩ => ⟨included, payload, found, missing⟩⟩

theorem unresolved_of_missingError {blockData : BlockData} {error : AnalyticsError}
    (missing : milestone.MissingError blockData error) : milestone.Unresolved blockData := by
  obtain ⟨included, payload, found,
    ⟨pre, outputId, post, split, -, none, -⟩ | ⟨-, j, bound, -, none, -⟩⟩ := missing
  · exact ⟨included, payload, found, .inl ⟨outputId, by simp [split], none⟩⟩
  · exact ⟨included, payload, found, .inr ⟨j, bound, none⟩⟩

-- Modelled from the spec: the events the driver delivers for a block.
def blockEvents (blockData : BlockData) : List Event :=
  (if blockData.metadata.inclusionState = .included then
      match blockData.block.payload with
      | some (.transaction payload) =>
        [.handleTransaction
          (payload.essence.inputs.filterMap fun
            | .utxo outputId => milestone.ledgerUpdates.getConsumed outputId
            | .treasury _ => none)
          ((List.range payload.essence.outputs.length).filterMap fun j =>
            milestone.ledgerUpdates.getCreated ⟨payload.transactionId, j.toUInt16⟩)
          ⟨milestone.protocolParams, milestone.at⟩]
      | _ => []
    else []) ++
  [.handleBlock blockData ⟨milestone.protocolParams, milestone.at⟩]

def coneEvents : List Event := milestone.coneStream.flatMap milestone.blockEvents

theorem blockEvents_eq (blockData : BlockData) :
    milestone.blockEvents blockData =
      (match includedTransaction blockData with
        | some payload =>
          [.handleTransaction
            ((payload.essence.inputs.filterMap utxoOutputId).filterMap
              milestone.ledgerUpdates.getConsumed)
            ((List.range payload.essence.outputs.length).filterMap fun index =>
              milestone.ledgerUpdates.getCreated (createdOutputId payload.transactionId index))
            milestone.context]
        | none => []) ++
      [.handleBlock blockData milestone.context] := by
  unfold blockEvents includedTransaction
  split_ifs
  · rcases blockData.block.payload with _ | (payload | _ | _ | _) <;> try rfl
    simp only [List.filterMap_filterMap]
    congr 4
    funext input
    cases input <;> rfl
  · rfl

theorem handleBlock_spec (A : Analytics σ M) (blockData : BlockData) (analytics : σ) :
    (milestone.Unresolved blockData ∧
      ∃ error, milestone.handleBlock A blockData analytics = (.error error, analytics)) ∨
    (¬ milestone.Unresolved blockData ∧
      milestone.handleBlock A blockData analytics =
        (.ok (), (A.run (milestone.blockEvents blockData) analytics).2)) := by
  rw [unresolved_iff_included, blockEvents_eq]
  cases included : includedTransaction blockData with
  | none => exact .inr ⟨by simp, by simp [handleBlock, included, Analytics.apply]⟩
  | some payload =>
    simp only [Option.some.injEq, exists_eq_left']
    by_cases spent : ∃ outputId ∈ payload.essence.inputs.filterMap utxoOutputId,
        milestone.ledgerUpdates.getConsumed outputId = none
    · obtain ⟨error, failed⟩ := milestone.consumed_eq_error blockData _ spent
      exact .inl ⟨.inl spent, error, by simp only [handleBlock, included, failed]⟩
    · have resolvedSpent := milestone.consumed_eq_ok blockData _
        fun outputId mem missing => spent ⟨outputId, mem, missing⟩
      by_cases output : ∃ index < payload.essence.outputs.length,
          milestone.ledgerUpdates.getCreated (createdOutputId payload.transactionId index) = none
      · obtain ⟨error, failed⟩ := milestone.created_eq_error blockData payload output
        refine .inl ⟨.inr output, error, ?_⟩
        simp only [handleBlock, included, resolvedSpent, failed]
      · have resolvedOutput := milestone.created_eq_ok blockData payload
          fun index bound missing => output ⟨index, bound, missing⟩
        refine .inr ⟨fun unresolved => unresolved.elim spent output, ?_⟩
        simp [handleBlock, included, resolvedSpent, resolvedOutput, Analytics.apply]

theorem handleBlock_error_iff (A : Analytics σ M) (blockData : BlockData) (analytics : σ)
    (error : AnalyticsError) :
    (milestone.handleBlock A blockData analytics).1 = .error error ↔
      milestone.MissingError blockData error := by
  rw [missingError_iff_included]
  cases included : includedTransaction blockData with
  | none => simp [handleBlock, included]
  | some payload =>
    simp only [Option.some.injEq, exists_eq_left']
    cases consumedResult : milestone.consumed blockData payload.essence.inputs with
    | error spentError =>
      have unresolved : ¬ ∀ outputId ∈ payload.essence.inputs.filterMap utxoOutputId,
          milestone.ledgerUpdates.getConsumed outputId ≠ none := fun resolved => by
        rw [milestone.consumed_eq_ok blockData _ resolved] at consumedResult
        cases consumedResult
      simp only [handleBlock, included, consumedResult, Except.error.injEq, unresolved, false_and,
        or_false]
    | ok consumed =>
      have resolved : ∀ outputId ∈ payload.essence.inputs.filterMap utxoOutputId,
          milestone.ledgerUpdates.getConsumed outputId ≠ none := fun outputId mem missing => by
        obtain ⟨_, failed⟩ := milestone.consumed_eq_error blockData _ ⟨outputId, mem, missing⟩
        rw [failed] at consumedResult
        cases consumedResult
      cases createdResult : milestone.created blockData payload <;>
        simp only [handleBlock, included, consumedResult, createdResult, and_iff_right resolved,
          reduceCtorEq, false_or, Except.error.injEq]

theorem handleCone_spec (A : Analytics σ M) (cone : List BlockData) (analytics : σ) :
    ((∀ blockData ∈ cone, ¬ milestone.Unresolved blockData) ∧
      milestone.handleCone A cone analytics =
        (.ok (), (A.run (cone.flatMap milestone.blockEvents) analytics).2)) ∨
    (∃ before failing after error, cone = before ++ failing :: after ∧
      (∀ blockData ∈ before, ¬ milestone.Unresolved blockData) ∧ milestone.Unresolved failing ∧
      milestone.handleCone A cone analytics =
        (.error error, (A.run (before.flatMap milestone.blockEvents) analytics).2)) := by
  induction cone generalizing analytics with
  | nil => exact .inl ⟨by simp, rfl⟩
  | cons blockData rest ih =>
    rcases milestone.handleBlock_spec A blockData analytics with
      ⟨unresolved, error, failed⟩ | ⟨resolved, delivered⟩
    · exact .inr ⟨[], blockData, rest, error, rfl, by simp, unresolved,
        by simp [handleCone, failed]⟩
    · rcases ih (A.run (milestone.blockEvents blockData) analytics).2 with
        ⟨restResolved, restDelivered⟩ | ⟨before, failing, after, error, split, beforeResolved,
          unresolved, failed⟩
      · refine .inl ⟨?_, ?_⟩
        · simpa [resolved] using restResolved
        · simp [handleCone, delivered, restDelivered, Analytics.run_append]
      · refine .inr ⟨blockData :: before, failing, after, error, by simp [split], ?_, unresolved,
          ?_⟩
        · simpa [resolved] using beforeResolved
        · simp [handleCone, delivered, failed, Analytics.run_append]

theorem handleCone_error_iff (A : Analytics σ M) (cone : List BlockData) (analytics : σ)
    (error : AnalyticsError) :
    (milestone.handleCone A cone analytics).1 = .error error ↔
      ∃ before failing after, cone = before ++ failing :: after ∧
        (∀ blockData ∈ before, ¬ milestone.Unresolved blockData) ∧
        milestone.MissingError failing error := by
  induction cone generalizing analytics with
  | nil => simp [handleCone]
  | cons blockData rest ih =>
    rcases milestone.handleBlock_spec A blockData analytics with
      ⟨unresolved, blockError, failed⟩ | ⟨resolved, delivered⟩
    · have reported := milestone.handleBlock_error_iff A blockData analytics
      simp only [failed, Except.error.injEq] at reported
      simp only [handleCone, failed, Except.error.injEq, reported]
      constructor
      · intro missing
        exact ⟨[], blockData, rest, rfl, by simp, missing⟩
      · rintro ⟨before, failing, after, split, beforeResolved, missing⟩
        cases before with
        | nil =>
          cases split
          exact missing
        | cons first before =>
          cases split
          exact absurd unresolved (beforeResolved blockData (by simp))
    · simp only [handleCone, delivered, ih]
      constructor
      · rintro ⟨before, failing, after, rfl, beforeResolved, missing⟩
        exact ⟨blockData :: before, failing, after, rfl, by simpa [resolved] using beforeResolved,
          missing⟩
      · rintro ⟨before, failing, after, split, beforeResolved, missing⟩
        cases before with
        | nil =>
          cases split
          exact absurd (milestone.unresolved_of_missingError missing) resolved
        | cons first before =>
          cases split
          exact ⟨before, failing, after, rfl,
            fun other mem => beforeResolved other (by simp [mem]), missing⟩

theorem endMilestone_spec (A : Analytics σ M) (analytics : σ)
    (influxdb : InfluxDb (PerMilestone M)) :
    (milestone.endMilestone A analytics influxdb).2.1 =
        (A.endMilestone milestone.context analytics).2 ∧
      influxdb.Inserted
        ((A.endMilestone milestone.context analytics).1.map fun inner =>
          { «at» := milestone.at, inner })
        (milestone.endMilestone A analytics influxdb).1
        (milestone.endMilestone A analytics influxdb).2.2 := by
  rcases ended : A.endMilestone milestone.context analytics with ⟨_ | inner, state⟩
  · simp [endMilestone, ended, InfluxDb.Inserted]
  · cases refused : influxdb.refuses { «at» := milestone.at, inner } <;>
      simp [endMilestone, ended, InfluxDb.Inserted, refused]

theorem updateAnalytics_of_resolved (A : Analytics σ M) (analytics : σ)
    (influxdb : InfluxDb (PerMilestone M))
    (resolved : ∀ blockData ∈ milestone.coneStream, ¬ milestone.Unresolved blockData)
    (streamEnds : milestone.coneStreamError = none) :
    milestone.updateAnalytics A analytics influxdb =
      milestone.endMilestone A (A.run milestone.coneEvents analytics).2 influxdb := by
  rcases milestone.handleCone_spec A milestone.coneStream analytics with
    ⟨-, delivered⟩ | ⟨before, failing, after, error, split, -, unresolved, -⟩
  · simp [updateAnalytics, delivered, streamEnds, coneEvents]
  · exact absurd unresolved (resolved failing (by simp [split]))

theorem updateAnalytics_analytics_error_iff (A : Analytics σ M) (analytics : σ)
    (influxdb : InfluxDb (PerMilestone M)) (error : AnalyticsError) :
    (milestone.updateAnalytics A analytics influxdb).1 = .error (.analytics error) ↔
      (milestone.handleCone A milestone.coneStream analytics).1 = .error error := by
  rcases coned : milestone.handleCone A milestone.coneStream analytics with ⟨_ | _, state⟩
  · simp [updateAnalytics, coned]
  · cases streamError : milestone.coneStreamError with
    | some message => simp [updateAnalytics, coned, streamError]
    | none =>
      simp only [updateAnalytics, coned, streamError, InfluxDb.inserted_result_eq_error_iff
        influxdb (milestone.endMilestone_spec A state influxdb).2]
      simp

end Milestone

variable {σ : Type u} {M : Type v}

theorem handle_block_errs_iff_unresolved (milestone : Milestone) (A : Analytics σ M)
    (blockData : BlockData) (analytics : σ) :
    ((milestone.handleBlock A blockData analytics).1.isOk = false ↔
        milestone.Unresolved blockData) ∧
      (milestone.Unresolved blockData →
        (milestone.handleBlock A blockData analytics).2 = analytics) ∧
      (¬ milestone.Unresolved blockData →
        milestone.handleBlock A blockData analytics =
          (.ok (), (A.run (milestone.blockEvents blockData) analytics).2)) := by
  rcases milestone.handleBlock_spec A blockData analytics with
    ⟨unresolved, error, failed⟩ | ⟨resolved, delivered⟩
  · simp [failed, unresolved, Except.isOk, Except.toBool]
  · simp [delivered, resolved, Except.isOk, Except.toBool]

def blockCount : Analytics Nat Nat where
  handleBlock _ _ count := count + 1
  endMilestone _ count := (some count, count)

def taggedDataBlock : BlockData :=
  { block := { payload := some (.taggedData ⟨[], []⟩) }
    metadata := { inclusionState := .noTransaction, referencedByMilestoneIndex := 1 } }

def spendingBlock : BlockData :=
  { block := { payload := some (.transaction
      { transactionId := 1, essence := { inputs := [.utxo ⟨0, 0⟩], outputs := [.treasury] } }) }
    metadata := { inclusionState := .included, referencedByMilestoneIndex := 1 } }

def demoMilestone (ledgerUpdates : LedgerUpdateStore) : Milestone :=
  { «at» := ⟨1, 100⟩, protocolParams := ⟨"testnet", 0⟩, ledgerUpdates,
    coneStream := [taggedDataBlock, spendingBlock], coneStreamError := none }

def missingSpentIndex : LedgerUpdateStore :=
  { getConsumed := fun _ => none
    getCreated := fun outputId => some ⟨outputId, ⟨1, 100⟩, .treasury⟩ }

def repairedIndex : LedgerUpdateStore :=
  { getConsumed := fun outputId => some ⟨⟨outputId, ⟨0, 50⟩, .treasury⟩⟩
    getCreated := fun outputId => some ⟨outputId, ⟨1, 100⟩, .treasury⟩ }

def acceptingInfluxDb {α : Type} : InfluxDb α := ⟨[], fun _ => none⟩

theorem update_analytics_delivers_cone_events (milestone : Milestone) (A : Analytics σ M)
    (analytics : σ) (influxdb : InfluxDb (PerMilestone M))
    (resolved : ∀ blockData ∈ milestone.coneStream, ¬ milestone.Unresolved blockData)
    (streamEnds : milestone.coneStreamError = none) :
    (milestone.updateAnalytics A analytics influxdb).2.1 =
        (A.endMilestone ⟨milestone.protocolParams, milestone.at⟩
          (A.run milestone.coneEvents analytics).2).2 ∧
      influxdb.Inserted
        ((A.endMilestone ⟨milestone.protocolParams, milestone.at⟩
          (A.run milestone.coneEvents analytics).2).1.map fun inner =>
            { «at» := milestone.at, inner })
        (milestone.updateAnalytics A analytics influxdb).1
        (milestone.updateAnalytics A analytics influxdb).2.2 := by
  rw [milestone.updateAnalytics_of_resolved A analytics influxdb resolved streamEnds]
  exact milestone.endMilestone_spec A _ influxdb

theorem repaired_milestone_delivers_cone_events :
    (∀ blockData ∈ (demoMilestone repairedIndex).coneStream,
        ¬ (demoMilestone repairedIndex).Unresolved blockData) ∧
      (demoMilestone repairedIndex).coneStreamError = none ∧
      ((demoMilestone repairedIndex).updateAnalytics blockCount 0 acceptingInfluxDb).2.1 =
          (blockCount.endMilestone ⟨(demoMilestone repairedIndex).protocolParams,
            (demoMilestone repairedIndex).at⟩
            (blockCount.run (demoMilestone repairedIndex).coneEvents 0).2).2 ∧
        acceptingInfluxDb.Inserted
          ((blockCount.endMilestone ⟨(demoMilestone repairedIndex).protocolParams,
            (demoMilestone repairedIndex).at⟩
            (blockCount.run (demoMilestone repairedIndex).coneEvents 0).2).1.map fun inner =>
              { «at» := (demoMilestone repairedIndex).at, inner })
          ((demoMilestone repairedIndex).updateAnalytics blockCount 0 acceptingInfluxDb).1
          ((demoMilestone repairedIndex).updateAnalytics blockCount 0 acceptingInfluxDb).2.2 :=
  ⟨by decide, rfl, update_analytics_delivers_cone_events _ _ _ _ (by decide) rfl⟩

theorem update_analytics_error_keeps_delivered_prefix (milestone : Milestone)
    (A : Analytics σ M) (analytics : σ)
    (influxdb : InfluxDb (PerMilestone M)) (error : AnalyticsError)
    (failed : (milestone.updateAnalytics A analytics influxdb).1 = .error (.analytics error)) :
    ∃ before failing after, milestone.coneStream = before ++ failing :: after ∧
      (∀ blockData ∈ before, ¬ milestone.Unresolved blockData) ∧ milestone.Unresolved failing ∧
      (milestone.updateAnalytics A analytics influxdb).2 =
        ((A.dyn.run (before.flatMap milestone.blockEvents) analytics).2, influxdb) := by
  rcases milestone.handleCone_spec A milestone.coneStream analytics with
    ⟨resolved, -⟩ | ⟨before, failing, after, coneError, split, resolved, unresolved, stopped⟩
  · obtain ⟨before, failing, after, split, -, missing⟩ :=
      (milestone.handleCone_error_iff A _ analytics error).mp
        ((milestone.updateAnalytics_analytics_error_iff A analytics influxdb error).mp failed)
    exact absurd (milestone.unresolved_of_missingError missing) (resolved failing (by simp [split]))
  · exact ⟨before, failing, after, split, resolved, unresolved,
      by simp [Milestone.updateAnalytics, stopped, Analytics.dyn_run_state]⟩

theorem missing_spent_keeps_delivered_prefix :
    ((demoMilestone missingSpentIndex).updateAnalytics blockCount 0 acceptingInfluxDb).1 =
        .error (.analytics (.missingLedgerSpent ⟨0, 0⟩ 1)) ∧
      ∃ before failing after, (demoMilestone missingSpentIndex).coneStream =
          before ++ failing :: after ∧
        (∀ blockData ∈ before, ¬ (demoMilestone missingSpentIndex).Unresolved blockData) ∧
        (demoMilestone missingSpentIndex).Unresolved failing ∧
        ((demoMilestone missingSpentIndex).updateAnalytics blockCount 0 acceptingInfluxDb).2 =
          ((blockCount.dyn.run (before.flatMap (demoMilestone missingSpentIndex).blockEvents) 0).2,
            acceptingInfluxDb) :=
  ⟨rfl, update_analytics_error_keeps_delivered_prefix _ _ _ _ _ rfl⟩

theorem update_analytics_failure_is_not_rolled_back :
    ((demoMilestone missingSpentIndex).updateAnalytics blockCount 0 acceptingInfluxDb).1 =
        .error (.analytics (.missingLedgerSpent ⟨0, 0⟩ 1)) ∧
      ((demoMilestone missingSpentIndex).updateAnalytics blockCount 0 acceptingInfluxDb).2.1 = 1 ∧
      ((demoMilestone repairedIndex).updateAnalytics blockCount 1 acceptingInfluxDb).2.1 ≠
        ((demoMilestone repairedIndex).updateAnalytics blockCount 0 acceptingInfluxDb).2.1 ∧
      ((demoMilestone repairedIndex).updateAnalytics blockCount 1 acceptingInfluxDb).2.2.points ≠
        ((demoMilestone repairedIndex).updateAnalytics blockCount 0 acceptingInfluxDb).2.2.points :=
  ⟨rfl, rfl, by decide, by decide⟩

theorem update_analytics_error_is_first_failure (milestone : Milestone) (A : Analytics σ M)
    (analytics : σ) (influxdb : InfluxDb (PerMilestone M)) :
    (∀ error, (milestone.updateAnalytics A analytics influxdb).1 = .error (.analytics error) ↔
      ∃ before failing after, milestone.coneStream = before ++ failing :: after ∧
        (∀ blockData ∈ before, ¬ milestone.Unresolved blockData) ∧
        milestone.MissingError failing error) ∧
    (∀ message, (milestone.updateAnalytics A analytics influxdb).1 = .error (.mongoDb message) ↔
      (∀ blockData ∈ milestone.coneStream, ¬ milestone.Unresolved blockData) ∧
        milestone.coneStreamError = some message) ∧
    ∀ message, (milestone.updateAnalytics A analytics influxdb).1 = .error (.influxDb message) ↔
      (∀ blockData ∈ milestone.coneStream, ¬ milestone.Unresolved blockData) ∧
        milestone.coneStreamError = none ∧
        ∃ measurement, (A.endMilestone ⟨milestone.protocolParams, milestone.at⟩
            (A.run milestone.coneEvents analytics).2).1 = some measurement ∧
          influxdb.refuses { «at» := milestone.at, inner := measurement } = some message := by
  refine ⟨fun error =>
    (milestone.updateAnalytics_analytics_error_iff A analytics influxdb error).trans
      (milestone.handleCone_error_iff A _ analytics error), ?_⟩
  rcases milestone.handleCone_spec A milestone.coneStream analytics with
    ⟨resolved, delivered⟩ | ⟨before, failing, after, coneError, split, -, unresolved, stopped⟩
  · have delivered : milestone.handleCone A milestone.coneStream analytics =
        (.ok (), (A.run milestone.coneEvents analytics).2) := delivered
    have written :=
      (milestone.endMilestone_spec A (A.run milestone.coneEvents analytics).2 influxdb).2
    cases streamError : milestone.coneStreamError with
    | some streamMessage =>
      simp [Milestone.updateAnalytics, delivered, streamError, and_iff_right resolved]
    | none =>
      simp only [Milestone.updateAnalytics, delivered, streamError,
        InfluxDb.inserted_result_eq_error_iff influxdb written]
      simp [and_iff_right resolved, Milestone.context]
  · have unresolvedInCone : ¬ ∀ blockData ∈ milestone.coneStream,
        ¬ milestone.Unresolved blockData := fun resolved => resolved failing (by simp [split])
      unresolved
    simp [Milestone.updateAnalytics, stopped, unresolvedInCone]

theorem composite_update_analytics_measures_each_analytic {N : Type} (milestone : Milestone)
    (analytics : List (Analytic N)) (influxdb : InfluxDb (PerMilestone (List (PerMilestone N))))
    (resolved : ∀ blockData ∈ milestone.coneStream, ¬ milestone.Unresolved blockData)
    (streamEnds : milestone.coneStreamError = none) :
    (milestone.updateAnalytics composite analytics influxdb).2.1 =
        analytics.map (fun analytic => { analytic with
          state := (analytic.analytics.endMilestone ⟨milestone.protocolParams, milestone.at⟩
            (analytic.analytics.run milestone.coneEvents analytic.state).2).2 }) ∧
      influxdb.Inserted
        (some { «at» := milestone.at
                inner := analytics.filterMap fun analytic =>
                  (analytic.analytics.endMilestone ⟨milestone.protocolParams, milestone.at⟩
                    (analytic.analytics.run milestone.coneEvents analytic.state).2).1.map
                      fun inner => { «at» := milestone.at, inner } })
        (milestone.updateAnalytics composite analytics influxdb).1
        (milestone.updateAnalytics composite analytics influxdb).2.2 := by
  have ended :=
    milestone.endMilestone_spec composite (composite.run milestone.coneEvents analytics).2 influxdb
  rw [composite_run] at ended
  rw [milestone.updateAnalytics_of_resolved composite analytics influxdb resolved streamEnds,
    composite_run]
  simpa [composite, Analytic.endMilestone, Analytic.run, Analytics.dyn_run_state,
    List.filterMap_map, Function.comp_def, Milestone.context] using ended

theorem repaired_milestone_composite_measurement :
    (∀ blockData ∈ (demoMilestone repairedIndex).coneStream,
        ¬ (demoMilestone repairedIndex).Unresolved blockData) ∧
      (demoMilestone repairedIndex).coneStreamError = none ∧
      ((demoMilestone repairedIndex).updateAnalytics composite
          [(⟨blockCount, 0⟩ : Analytic Nat)] acceptingInfluxDb).2.1 =
        [(⟨blockCount, 0⟩ : Analytic Nat)].map (fun analytic => { analytic with
          state := (analytic.analytics.endMilestone ⟨(demoMilestone repairedIndex).protocolParams,
            (demoMilestone repairedIndex).at⟩ (analytic.analytics.run
              (demoMilestone repairedIndex).coneEvents analytic.state).2).2 }) ∧
      acceptingInfluxDb.Inserted
        (some { «at» := (demoMilestone repairedIndex).at
                inner := [(⟨blockCount, 0⟩ : Analytic Nat)].filterMap fun analytic =>
                  (analytic.analytics.endMilestone ⟨(demoMilestone repairedIndex).protocolParams,
                    (demoMilestone repairedIndex).at⟩ (analytic.analytics.run
                      (demoMilestone repairedIndex).coneEvents analytic.state).2).1.map
                        fun inner => { «at» := (demoMilestone repairedIndex).at, inner } })
        ((demoMilestone repairedIndex).updateAnalytics composite
          [(⟨blockCount, 0⟩ : Analytic Nat)] acceptingInfluxDb).1
        ((demoMilestone repairedIndex).updateAnalytics composite
          [(⟨blockCount, 0⟩ : Analytic Nat)] acceptingInfluxDb).2.2 :=
  ⟨by decide, rfl, composite_update_analytics_measures_each_analytic _ _ _ (by decide) rfl⟩

end Chronicle
