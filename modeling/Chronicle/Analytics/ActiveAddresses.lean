import Chronicle.Types.Ledger
import Mathlib.Data.Finset.Card

set_option autoImplicit false

namespace Chronicle

-- `OffsetDateTime` and `Duration` are whole nanoseconds; a milestone timestamp is whole seconds.
def offsetDateTime (milestoneTimestamp : Nat) : Int := milestoneTimestamp * 1000000000

-- The range of `OffsetDateTime`, -9999-01-01 to 9999-12-31; `+` panics outside it.
def offsetDateTimeMin : Int := -377705116800000000000

def offsetDateTimeMax : Int := 253402300799999999999

structure AddressCount where
  count : Nat
deriving DecidableEq, Repr

structure ActiveAddresses where
  startTime : Int
  interval : Int
  addresses : Finset Address
  flush : Option Nat
deriving DecidableEq

-- The owners `ActiveAddresses::init` keeps
def bookedAddresses (startTime interval : Int) (unspentOutputs : List LedgerOutput) :
    List Address :=
  unspentOutputs.filterMap fun output =>
    if startTime ≤ offsetDateTime output.booked.milestoneTimestamp ∧
        offsetDateTime output.booked.milestoneTimestamp < startTime + interval then
      output.output.owningAddress
    else none

theorem bookedAddresses_eq_filter (startTime interval : Int) (unspentOutputs : List LedgerOutput) :
    bookedAddresses startTime interval unspentOutputs =
      (unspentOutputs.filter fun output =>
          startTime ≤ offsetDateTime output.booked.milestoneTimestamp ∧
            offsetDateTime output.booked.milestoneTimestamp < startTime + interval).filterMap
        fun output => output.output.owningAddress := by
  simp [bookedAddresses, List.filterMap_filter]

def insertOwner (addresses : Finset Address) (output : Output) : Finset Address :=
  match output.owningAddress with
  | some address => insert address addresses
  | none => addresses

-- One milestone of `TransactionAnalytics`: `begin_milestone`, transactions, `end_milestone`.
structure MilestoneActivity where
  «at» : MilestoneIndexTimestamp
  transactions : List (List LedgerSpent × List LedgerOutput)

namespace ActiveAddresses

def init (startTime interval : Int) (unspentOutputs : List LedgerOutput) : ActiveAddresses :=
  { startTime, interval, addresses := (bookedAddresses startTime interval unspentOutputs).toFinset
    flush := none }

@[simp] theorem init_startTime (startTime interval : Int) (unspentOutputs : List LedgerOutput) :
    (init startTime interval unspentOutputs).startTime = startTime := rfl

def beginMilestone (state : ActiveAddresses) («at» : MilestoneIndexTimestamp) : ActiveAddresses :=
  let endTime := state.startTime + state.interval
  if offsetDateTime at.milestoneTimestamp > endTime then
    { state with flush := some state.addresses.card, addresses := ∅, startTime := endTime }
  else state

def handleTransaction (state : ActiveAddresses) (inputs : List LedgerSpent)
    (outputs : List LedgerOutput) : ActiveAddresses :=
  { state with
    addresses := outputs.foldl (fun addresses output => insertOwner addresses output.output)
      (inputs.foldl (fun addresses input => insertOwner addresses input.output.output)
        state.addresses) }

-- `self.flush.take().map(AddressCount)`
def endMilestone (state : ActiveAddresses) (_ : MilestoneIndexTimestamp) :
    Option AddressCount × ActiveAddresses :=
  (state.flush.map AddressCount.mk, { state with flush := none })

def processMilestone (state : ActiveAddresses) (milestone : MilestoneActivity) :
    Option AddressCount × ActiveAddresses :=
  (milestone.transactions.foldl (fun state transaction => state.handleTransaction transaction.1
    transaction.2) (state.beginMilestone milestone.at)).endMilestone milestone.at

def run : ActiveAddresses → List MilestoneActivity → List (Option AddressCount) × ActiveAddresses
  | state, [] => ([], state)
  | state, milestone :: rest =>
    ((state.processMilestone milestone).1 :: (run (state.processMilestone milestone).2 rest).1,
      (run (state.processMilestone milestone).2 rest).2)

end ActiveAddresses

def transactionAddresses (inputs : List LedgerSpent) (outputs : List LedgerOutput) : List Address :=
  inputs.filterMap (·.output.output.owningAddress) ++ outputs.filterMap (·.output.owningAddress)

def activityAddresses (milestone : MilestoneActivity) : List Address :=
  milestone.transactions.flatMap fun transaction => transactionAddresses transaction.1 transaction.2

def windowRolls (interval : Int) : Int → List MilestoneActivity → List Bool
  | _, [] => []
  | startTime, milestone :: rest =>
    if offsetDateTime milestone.at.milestoneTimestamp > startTime + interval then
      true :: windowRolls interval (startTime + interval) rest
    else false :: windowRolls interval startTime rest

-- Modelled from the spec: at each roll, the distinct addresses handled since the last one.
def windowCounts : List Address → List Bool → List MilestoneActivity → List (Option AddressCount)
  | _, [], _ => []
  | _, _ :: _, [] => []
  | pending, true :: rolls, milestone :: rest =>
    some ⟨pending.toFinset.card⟩ :: windowCounts (activityAddresses milestone) rolls rest
  | pending, false :: rolls, milestone :: rest =>
    none :: windowCounts (pending ++ activityAddresses milestone) rolls rest

namespace ActiveAddresses

theorem foldl_insertOwner {α : Type} (owner : α → Output) (items : List α)
    (addresses : Finset Address) :
    items.foldl (fun addresses item => insertOwner addresses (owner item)) addresses =
      addresses ∪ (items.filterMap fun item => (owner item).owningAddress).toFinset := by
  induction items generalizing addresses with
  | nil => simp
  | cons item items ih =>
    rw [List.foldl_cons, ih]
    cases found : (owner item).owningAddress <;>
      simp [insertOwner, found, Finset.insert_union, Finset.union_insert]

theorem foldl_handleTransaction (state : ActiveAddresses)
    (transactions : List (List LedgerSpent × List LedgerOutput)) :
    transactions.foldl (fun state transaction => state.handleTransaction transaction.1
      transaction.2) state =
      { state with addresses := state.addresses ∪ (transactions.flatMap fun transaction =>
          transactionAddresses transaction.1 transaction.2).toFinset } := by
  induction transactions generalizing state with
  | nil => simp
  | cons transaction transactions ih =>
    rw [List.foldl_cons, ih]
    simp [handleTransaction, foldl_insertOwner, transactionAddresses, Finset.union_assoc]

theorem processMilestone_spec (state : ActiveAddresses) (pending : List Address)
    (tracks : state.addresses = pending.toFinset) (idle : state.flush = none)
    (milestone : MilestoneActivity) :
    state.processMilestone milestone =
      if offsetDateTime milestone.at.milestoneTimestamp > state.startTime + state.interval then
        (some ⟨pending.toFinset.card⟩,
          { state with startTime := state.startTime + state.interval
                       addresses := (activityAddresses milestone).toFinset, flush := none })
      else
        (none, { state with addresses := (pending ++ activityAddresses milestone).toFinset
                            flush := none }) := by
  by_cases rolled :
      offsetDateTime milestone.at.milestoneTimestamp > state.startTime + state.interval
  <;> simp [processMilestone, beginMilestone, rolled, foldl_handleTransaction, endMilestone,
    activityAddresses, tracks, idle]

theorem run_windowCounts (state : ActiveAddresses) (pending : List Address)
    (tracks : state.addresses = pending.toFinset) (idle : state.flush = none)
    (milestones : List MilestoneActivity) :
    (state.run milestones).1 =
      windowCounts pending (windowRolls state.interval state.startTime milestones) milestones := by
  induction milestones generalizing state pending with
  | nil => rfl
  | cons milestone rest ih =>
    simp only [run, processMilestone_spec state pending tracks idle]
    by_cases rolled :
        offsetDateTime milestone.at.milestoneTimestamp > state.startTime + state.interval
    · simp only [rolled, if_true, windowRolls, windowCounts]
      rw [ih _ (activityAddresses milestone) rfl rfl]
    · simp only [rolled, if_false, windowRolls, windowCounts]
      rw [ih _ (pending ++ activityAddresses milestone) rfl rfl]

theorem run_window_start (state : ActiveAddresses) (pending : List Address)
    (tracks : state.addresses = pending.toFinset) (idle : state.flush = none)
    (milestones : List MilestoneActivity) :
    (∃ pending : List Address, (state.run milestones).2.addresses = pending.toFinset) ∧
      (state.run milestones).2.flush = none ∧
      (state.run milestones).2.interval = state.interval ∧
      (state.run milestones).2.startTime =
        state.startTime + state.interval * ((state.run milestones).1.countP Option.isSome) := by
  induction milestones generalizing state pending with
  | nil => exact ⟨⟨pending, tracks⟩, idle, rfl, by simp [run]⟩
  | cons milestone rest ih =>
    have step := processMilestone_spec state pending tracks idle milestone
    by_cases rolled :
        offsetDateTime milestone.at.milestoneTimestamp > state.startTime + state.interval
    · rw [if_pos rolled] at step
      obtain ⟨addresses, flush, interval, start⟩ := ih (state.processMilestone milestone).2
        (activityAddresses milestone) (by rw [step]) (by rw [step])
      simp only [run, step] at addresses flush interval start ⊢
      refine ⟨addresses, flush, interval, ?_⟩
      rw [start, List.countP_cons_of_pos _ _ rfl]
      push_cast [Int.mul_add]
      omega
    · rw [if_neg rolled] at step
      obtain ⟨addresses, flush, interval, start⟩ := ih (state.processMilestone milestone).2
        (pending ++ activityAddresses milestone) (by rw [step]) (by rw [step])
      simp only [run, step] at addresses flush interval start ⊢
      exact ⟨addresses, flush, interval, by rw [start, List.countP_cons_of_neg _ _ (by simp)]⟩

theorem run_init_window (startTime interval : Int) (unspentOutputs : List LedgerOutput)
    (milestones : List MilestoneActivity) :
    (∃ pending : List Address,
        ((init startTime interval unspentOutputs).run milestones).2.addresses = pending.toFinset) ∧
      ((init startTime interval unspentOutputs).run milestones).2.flush = none ∧
      ((init startTime interval unspentOutputs).run milestones).2.interval = interval ∧
      ((init startTime interval unspentOutputs).run milestones).2.startTime = startTime +
        interval * ((init startTime interval unspentOutputs).run milestones).1.countP Option.isSome :=
  run_window_start _ _ rfl rfl milestones

theorem run_startTime_bound (state : ActiveAddresses) (pending : List Address)
    (tracks : state.addresses = pending.toFinset) (idle : state.flush = none)
    (nonnegative : 0 ≤ state.interval) (milestones : List MilestoneActivity)
    (u32 : ∀ milestone ∈ milestones, milestone.at.milestoneTimestamp < 2 ^ 32) :
    state.startTime ≤ (state.run milestones).2.startTime ∧
      ((state.run milestones).2.startTime = state.startTime ∨
        (state.run milestones).2.startTime < offsetDateTime (2 ^ 32 - 1)) := by
  induction milestones generalizing state pending with
  | nil => exact ⟨le_refl _, .inl rfl⟩
  | cons milestone rest ih =>
    have step := processMilestone_spec state pending tracks idle milestone
    have stamped :
        offsetDateTime milestone.at.milestoneTimestamp ≤ offsetDateTime (2 ^ 32 - 1) := by
      have := u32 milestone (List.mem_cons_self _ _)
      simp only [offsetDateTime]
      omega
    have later := fun milestone mem => u32 milestone (List.mem_cons_of_mem _ mem)
    by_cases rolled :
        offsetDateTime milestone.at.milestoneTimestamp > state.startTime + state.interval
    · rw [if_pos rolled] at step
      obtain ⟨moved, bound⟩ := ih (state.processMilestone milestone).2 (activityAddresses milestone)
        (by rw [step]) (by rw [step]) (by rw [step]; exact nonnegative) later
      simp only [run, step] at moved bound ⊢
      exact ⟨by omega, .inr (by omega)⟩
    · rw [if_neg rolled] at step
      obtain ⟨moved, bound⟩ := ih (state.processMilestone milestone).2
        (pending ++ activityAddresses milestone) (by rw [step]) (by rw [step])
        (by rw [step]; exact nonnegative) later
      simp only [run, step] at moved bound ⊢
      exact ⟨moved, bound⟩

end ActiveAddresses

theorem active_addresses_emit_window_counts (startTime interval : Int)
    (unspentOutputs : List LedgerOutput) (milestones : List MilestoneActivity) :
    (ActiveAddresses.run (.init startTime interval unspentOutputs) milestones).1 =
      windowCounts
        ((unspentOutputs.filter fun output =>
            startTime ≤ offsetDateTime output.booked.milestoneTimestamp ∧
              offsetDateTime output.booked.milestoneTimestamp < startTime + interval).filterMap
          fun output => output.output.owningAddress)
        (windowRolls interval startTime milestones) milestones := by
  rw [← bookedAddresses_eq_filter]
  exact ActiveAddresses.run_windowCounts _ _ rfl rfl milestones

theorem active_addresses_window_moves_one_interval (startTime interval : Int)
    (unspentOutputs : List LedgerOutput) (before : List MilestoneActivity)
    (milestone : MilestoneActivity) :
    let state := (ActiveAddresses.run (.init startTime interval unspentOutputs) before).2
    state.startTime = startTime + interval *
        ((ActiveAddresses.run (.init startTime interval unspentOutputs) before).1.countP
          Option.isSome) ∧
      (offsetDateTime milestone.at.milestoneTimestamp > state.startTime + interval →
        (state.processMilestone milestone).1.isSome ∧
          (state.processMilestone milestone).2.startTime = state.startTime + interval) ∧
      (offsetDateTime milestone.at.milestoneTimestamp < state.startTime + interval →
        (state.processMilestone milestone).1 = none ∧
          (state.processMilestone milestone).2.startTime = state.startTime) := by
  obtain ⟨⟨pending, tracks⟩, idle, sameInterval, start⟩ :=
    ActiveAddresses.run_init_window startTime interval unspentOutputs before
  refine ⟨start, fun late => ?_, fun early => ?_⟩
  · rw [ActiveAddresses.processMilestone_spec _ pending tracks idle, sameInterval, if_pos late]
    simp
  · rw [ActiveAddresses.processMilestone_spec _ pending tracks idle, sameInterval,
      if_neg (by omega)]
    simp

theorem begin_milestone_lags_behind_long_gap :
    ((ActiveAddresses.init 0 10000000000 []).beginMilestone ⟨1, 35⟩).startTime ≠
        0 + (offsetDateTime 35 - 0) / 10000000000 * 10000000000 ∧
      (ActiveAddresses.run (.init 0 10000000000 []) [⟨⟨1, 35⟩, []⟩, ⟨⟨2, 36⟩, []⟩]).1 =
        [some ⟨0⟩, some ⟨0⟩] := by
  decide

theorem window_end_milestone_counts_in_current_window (startTime interval : Int)
    (unspentOutputs : List LedgerOutput) (before : List MilestoneActivity)
    (milestone : MilestoneActivity)
    (atEnd : offsetDateTime milestone.at.milestoneTimestamp =
      (ActiveAddresses.run (.init startTime interval unspentOutputs) before).2.startTime +
        interval) :
    (∀ output : LedgerOutput,
        offsetDateTime output.booked.milestoneTimestamp = startTime + interval →
          bookedAddresses startTime interval [output] = []) ∧
      let state := (ActiveAddresses.run (.init startTime interval unspentOutputs) before).2
      (state.processMilestone milestone).1 = none ∧
        (state.processMilestone milestone).2.startTime = state.startTime ∧
        ∀ address ∈ activityAddresses milestone,
          address ∈ (state.processMilestone milestone).2.addresses := by
  obtain ⟨⟨pending, tracks⟩, idle, sameInterval, -⟩ :=
    ActiveAddresses.run_init_window startTime interval unspentOutputs before
  refine ⟨fun output booked => by simp [bookedAddresses, booked], ?_⟩
  dsimp only
  rw [ActiveAddresses.processMilestone_spec _ pending tracks idle, sameInterval,
    if_neg (by omega)]
  simp_all

def ownedOutput : LedgerOutput := ⟨⟨5, 0⟩, ⟨2, 20⟩, .basic (.ed25519 7)⟩

theorem milestone_at_first_window_end :
    offsetDateTime (⟨⟨2, 20⟩, [([], [ownedOutput])]⟩ : MilestoneActivity).at.milestoneTimestamp =
        (ActiveAddresses.run (.init 0 10000000000 []) [⟨⟨1, 15⟩, []⟩]).2.startTime +
          10000000000 ∧
      ((∀ output : LedgerOutput, offsetDateTime output.booked.milestoneTimestamp = 0 + 10000000000 →
          bookedAddresses 0 10000000000 [output] = []) ∧
        let state := (ActiveAddresses.run (.init 0 10000000000 []) [⟨⟨1, 15⟩, []⟩]).2
        (state.processMilestone ⟨⟨2, 20⟩, [([], [ownedOutput])]⟩).1 = none ∧
          (state.processMilestone ⟨⟨2, 20⟩, [([], [ownedOutput])]⟩).2.startTime = state.startTime ∧
          ∀ address ∈ activityAddresses ⟨⟨2, 20⟩, [([], [ownedOutput])]⟩,
            address ∈ (state.processMilestone ⟨⟨2, 20⟩, [([], [ownedOutput])]⟩).2.addresses) :=
  ⟨by decide, window_end_milestone_counts_in_current_window 0 10000000000 [] [⟨⟨1, 15⟩, []⟩]
    ⟨⟨2, 20⟩, [([], [ownedOutput])]⟩ (by decide)⟩

theorem begin_milestone_window_end_in_range (startTime interval : Int)
    (unspentOutputs : List LedgerOutput) (milestones : List MilestoneActivity)
    (u32 : ∀ milestone ∈ milestones, milestone.at.milestoneTimestamp < 2 ^ 32)
    (startInRange : offsetDateTimeMin ≤ startTime) (nonnegative : 0 ≤ interval)
    (firstEndInRange : startTime + interval ≤ offsetDateTimeMax)
    (room : offsetDateTime (2 ^ 32 - 1) + interval ≤ offsetDateTimeMax)
    (before : List MilestoneActivity) (begun : before <+: milestones) :
    offsetDateTimeMin ≤
        (ActiveAddresses.run (.init startTime interval unspentOutputs) before).2.startTime +
          (ActiveAddresses.run (.init startTime interval unspentOutputs) before).2.interval ∧
      (ActiveAddresses.run (.init startTime interval unspentOutputs) before).2.startTime +
          (ActiveAddresses.run (.init startTime interval unspentOutputs) before).2.interval ≤
        offsetDateTimeMax := by
  obtain ⟨-, -, sameInterval, -⟩ :=
    ActiveAddresses.run_init_window startTime interval unspentOutputs before
  obtain ⟨moved, bound⟩ := ActiveAddresses.run_startTime_bound
    (.init startTime interval unspentOutputs) _ rfl rfl nonnegative before
    fun milestone mem => u32 milestone (begun.subset mem)
  simp only [ActiveAddresses.init_startTime] at moved bound
  exact ⟨by omega, by omega⟩

def tenSecondRun : List MilestoneActivity := [⟨⟨1, 15⟩, []⟩, ⟨⟨2, 20⟩, [([], [ownedOutput])]⟩]

theorem ten_second_windows_in_range :
    (∀ milestone ∈ tenSecondRun, milestone.at.milestoneTimestamp < 2 ^ 32) ∧
      offsetDateTimeMin ≤ 0 ∧ (0 : Int) ≤ 10000000000 ∧ 0 + 10000000000 ≤ offsetDateTimeMax ∧
      offsetDateTime (2 ^ 32 - 1) + 10000000000 ≤ offsetDateTimeMax ∧
      [⟨⟨1, 15⟩, []⟩] <+: tenSecondRun ∧
      offsetDateTimeMin ≤
          (ActiveAddresses.run (.init 0 10000000000 []) [⟨⟨1, 15⟩, []⟩]).2.startTime +
            (ActiveAddresses.run (.init 0 10000000000 []) [⟨⟨1, 15⟩, []⟩]).2.interval ∧
        (ActiveAddresses.run (.init 0 10000000000 []) [⟨⟨1, 15⟩, []⟩]).2.startTime +
            (ActiveAddresses.run (.init 0 10000000000 []) [⟨⟨1, 15⟩, []⟩]).2.interval ≤
          offsetDateTimeMax :=
  ⟨by decide, by decide, by decide, by decide, by decide, ⟨_, rfl⟩,
    begin_milestone_window_end_in_range 0 10000000000 [] tenSecondRun (by decide) (by decide)
      (by decide) (by decide) (by decide) _ ⟨_, rfl⟩⟩

end Chronicle
