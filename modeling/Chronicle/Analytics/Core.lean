import Chronicle.Types.Block

set_option autoImplicit false

namespace Chronicle

universe u v

structure ProtocolParameters where
  networkName : String
  tokenSupply : Nat
deriving DecidableEq, Repr

-- `AnalyticsContext`
structure AnalyticsContext where
  protocolParams : ProtocolParameters
  «at» : MilestoneIndexTimestamp
deriving DecidableEq, Repr

-- `trait Analytics`
structure Analytics (σ : Type u) (M : Type v) where
  handleTransaction : List LedgerSpent → List LedgerOutput → AnalyticsContext → σ → σ :=
    fun _ _ _ analytics => analytics
  handleBlock : BlockData → AnalyticsContext → σ → σ := fun _ _ analytics => analytics
  endMilestone : AnalyticsContext → σ → Option M × σ

inductive Event where
  | handleTransaction (consumed : List LedgerSpent) (created : List LedgerOutput)
      (ctx : AnalyticsContext)
  | handleBlock (blockData : BlockData) (ctx : AnalyticsContext)
  | endMilestone (ctx : AnalyticsContext)
deriving DecidableEq, Repr

variable {σ : Type u} {M : Type v}

def Analytics.apply (A : Analytics σ M) : Event → σ → Option M × σ
  | .handleTransaction consumed created ctx, analytics =>
    (none, A.handleTransaction consumed created ctx analytics)
  | .handleBlock blockData ctx, analytics => (none, A.handleBlock blockData ctx analytics)
  | .endMilestone ctx, analytics => A.endMilestone ctx analytics

def Analytics.run (A : Analytics σ M) : List Event → σ → List (Option M) × σ
  | [], analytics => ([], analytics)
  | event :: events, analytics =>
    let (results, final) := A.run events (A.apply event analytics).2
    ((A.apply event analytics).1 :: results, final)

@[simp] theorem Analytics.run_nil (A : Analytics σ M) (analytics : σ) :
    A.run [] analytics = ([], analytics) := rfl

@[simp] theorem Analytics.run_cons (A : Analytics σ M) (event : Event) (events : List Event)
    (analytics : σ) :
    A.run (event :: events) analytics =
      ((A.apply event analytics).1 :: (A.run events (A.apply event analytics).2).1,
        (A.run events (A.apply event analytics).2).2) := rfl

theorem Analytics.run_append (A : Analytics σ M) (first second : List Event) (analytics : σ) :
    A.run (first ++ second) analytics =
      ((A.run first analytics).1 ++ (A.run second (A.run first analytics).2).1,
        (A.run second (A.run first analytics).2).2) := by
  induction first generalizing analytics with
  | nil => rfl
  | cons event first ih => simp [ih]

structure PerMilestone (M : Type v) where
  «at» : MilestoneIndexTimestamp
  inner : M
deriving DecidableEq, Repr

inductive AnalyticsError where
  | missingLedgerOutput (outputId : OutputId) (milestoneIndex : Nat)
  | missingLedgerSpent (outputId : OutputId) (milestoneIndex : Nat)
deriving DecidableEq, Repr

-- The `eyre::Report`s of the drivers; MongoDB and InfluxDB errors are kept as their messages.
inductive Report where
  | analytics (error : AnalyticsError)
  | mongoDb (message : String)
  | influxDb (message : String)
deriving DecidableEq, Repr

-- The InfluxDB server `insert_measurement` writes to, and its refusals.
structure InfluxDb (α : Type u) where
  points : List α
  refuses : α → Option String

namespace InfluxDb

variable {α : Type u} (influxdb : InfluxDb α) (point : α)

def insertMeasurement : Except String (InfluxDb α) :=
  match influxdb.refuses point with
  | some message => .error message
  | none => .ok { influxdb with points := influxdb.points ++ [point] }

@[simp]
theorem insertMeasurement_of_accepted (accepted : influxdb.refuses point = none) :
    influxdb.insertMeasurement point =
      .ok { influxdb with points := influxdb.points ++ [point] } := by
  simp [insertMeasurement, accepted]

@[simp]
theorem insertMeasurement_of_refused (message : String)
    (refused : influxdb.refuses point = some message) :
    influxdb.insertMeasurement point = .error message := by
  simp [insertMeasurement, refused]

-- Modelled from the spec: one write of the measurement, if any.
def Inserted : Option α → Except Report Unit → InfluxDb α → Prop
  | none, result, after => result = .ok () ∧ after = influxdb
  | some point, result, after =>
    (influxdb.refuses point = none ∧ result = .ok () ∧
        after = { influxdb with points := influxdb.points ++ [point] }) ∨
      ∃ message, influxdb.refuses point = some message ∧ result = .error (.influxDb message) ∧
        after = influxdb

theorem inserted_result_eq_error_iff {measurement : Option α} {result : Except Report Unit}
    {after : InfluxDb α} (inserted : influxdb.Inserted measurement result after) (error : Report) :
    result = .error error ↔
      ∃ point message, measurement = some point ∧ influxdb.refuses point = some message ∧
        error = .influxDb message := by
  cases measurement with
  | none =>
    obtain ⟨rfl, -⟩ := inserted
    simp
  | some point =>
    rcases inserted with ⟨accepted, rfl, -⟩ | ⟨message, refused, rfl, -⟩
    · simp [accepted]
    · simp [refused, eq_comm]

end InfluxDb

-- `impl DynAnalytics for T`
def Analytics.dyn (A : Analytics σ M) : Analytics σ (PerMilestone M) where
  handleTransaction := A.handleTransaction
  handleBlock := A.handleBlock
  endMilestone ctx analytics :=
    ((A.endMilestone ctx analytics).1.map fun inner => { «at» := ctx.at, inner },
      (A.endMilestone ctx analytics).2)

@[simp] theorem Analytics.dyn_handleTransaction (A : Analytics σ M) :
    A.dyn.handleTransaction = A.handleTransaction := rfl

@[simp] theorem Analytics.dyn_handleBlock (A : Analytics σ M) : A.dyn.handleBlock = A.handleBlock :=
  rfl

@[simp] theorem Analytics.dyn_endMilestone (A : Analytics σ M) (ctx : AnalyticsContext)
    (analytics : σ) :
    A.dyn.endMilestone ctx analytics =
      ((A.endMilestone ctx analytics).1.map fun inner => { «at» := ctx.at, inner },
        (A.endMilestone ctx analytics).2) := rfl

@[simp] theorem Analytics.dyn_apply_handleTransaction (A : Analytics σ M)
    (consumed : List LedgerSpent) (created : List LedgerOutput) (ctx : AnalyticsContext)
    (analytics : σ) :
    A.dyn.apply (.handleTransaction consumed created ctx) analytics =
      (none, A.handleTransaction consumed created ctx analytics) := rfl

@[simp] theorem Analytics.dyn_apply_handleBlock (A : Analytics σ M) (blockData : BlockData)
    (ctx : AnalyticsContext) (analytics : σ) :
    A.dyn.apply (.handleBlock blockData ctx) analytics =
      (none, A.handleBlock blockData ctx analytics) := rfl

@[simp] theorem Analytics.dyn_apply_state (A : Analytics σ M) (event : Event) (analytics : σ) :
    (A.dyn.apply event analytics).2 = (A.apply event analytics).2 := by
  cases event <;> rfl

theorem Analytics.dyn_run_state (A : Analytics σ M) (events : List Event) (analytics : σ) :
    (A.dyn.run events analytics).2 = (A.run events analytics).2 := by
  induction events generalizing analytics with
  | nil => rfl
  | cons event events ih => simp [ih]

-- `Analytic(Box<dyn DynAnalytics>)`
structure Analytic (M : Type) : Type 1 where
  {State : Type}
  analytics : Analytics State M
  state : State

namespace Analytic

variable {N : Type}

def handleTransaction (analytic : Analytic N) (consumed : List LedgerSpent)
    (created : List LedgerOutput) (ctx : AnalyticsContext) : Analytic N :=
  { analytic with
    state := analytic.analytics.dyn.handleTransaction consumed created ctx analytic.state }

def handleBlock (analytic : Analytic N) (blockData : BlockData) (ctx : AnalyticsContext) :
    Analytic N :=
  { analytic with state := analytic.analytics.dyn.handleBlock blockData ctx analytic.state }

def endMilestone (analytic : Analytic N) (ctx : AnalyticsContext) :
    Option (PerMilestone N) × Analytic N :=
  ((analytic.analytics.dyn.endMilestone ctx analytic.state).1,
    { analytic with state := (analytic.analytics.dyn.endMilestone ctx analytic.state).2 })

def apply (analytic : Analytic N) (event : Event) : Option (PerMilestone N) × Analytic N :=
  ((analytic.analytics.dyn.apply event analytic.state).1,
    { analytic with state := (analytic.analytics.dyn.apply event analytic.state).2 })

def run (analytic : Analytic N) (events : List Event) :
    List (Option (PerMilestone N)) × Analytic N :=
  ((analytic.analytics.dyn.run events analytic.state).1,
    { analytic with state := (analytic.analytics.dyn.run events analytic.state).2 })

@[simp] theorem run_nil (analytic : Analytic N) : analytic.run [] = ([], analytic) := rfl

@[simp] theorem run_cons (analytic : Analytic N) (event : Event) (events : List Event) :
    analytic.run (event :: events) =
      ((analytic.apply event).1 :: ((analytic.apply event).2.run events).1,
        ((analytic.apply event).2.run events).2) := rfl

end Analytic

-- `impl<T: AsMut<[Analytic]>> Analytics for T`.
def composite {N : Type} : Analytics (List (Analytic N)) (List (PerMilestone N)) where
  handleBlock blockData ctx analytics := analytics.map (·.handleBlock blockData ctx)
  handleTransaction consumed created ctx analytics :=
    analytics.map (·.handleTransaction consumed created ctx)
  endMilestone ctx analytics :=
    (some ((analytics.map (·.endMilestone ctx)).filterMap Prod.fst),
      (analytics.map (·.endMilestone ctx)).map Prod.snd)

variable {N : Type}

def mergeResult : Event → List (Option (PerMilestone N)) → Option (List (PerMilestone N))
  | .endMilestone _, results => some results.reduceOption
  | _, _ => none

def mergeResults :
    List Event → List (List (Option (PerMilestone N))) → List (Option (List (PerMilestone N)))
  | [], _ => []
  | event :: events, results =>
    mergeResult event (results.map fun result => result.head?.join) ::
      mergeResults events (results.map List.tail)

theorem composite_apply (event : Event) (analytics : List (Analytic N)) :
    composite.apply event analytics =
      (mergeResult event (analytics.map fun analytic => (analytic.apply event).1),
        analytics.map fun analytic => (analytic.apply event).2) := by
  cases event <;>
    simp [composite, Analytics.apply, mergeResult, Analytic.apply, Analytic.handleBlock,
      Analytic.handleTransaction, Analytic.endMilestone, List.reduceOption, List.filterMap_map,
      Function.comp_def]

theorem composite_run (events : List Event) (analytics : List (Analytic N)) :
    composite.run events analytics =
      (mergeResults events (analytics.map fun analytic => (analytic.run events).1),
        analytics.map fun analytic => (analytic.run events).2) := by
  induction events generalizing analytics with
  | nil => simp [mergeResults]
  | cons event events ih => simp [composite_apply, ih, mergeResults, Function.comp_def]

end Chronicle
