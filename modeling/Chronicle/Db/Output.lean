import Chronicle.Types.Ledger
import Mathlib.Logic.Function.Basic

set_option autoImplicit false

namespace Chronicle.Db

-- `OutputDocument`
structure OutputDocument (Metadata : Type) where
  output : Output
  metadata : Metadata
deriving DecidableEq, Repr

-- `stardust_outputs`, keyed by `output_id`
def Collection (Metadata : Type) : Type := OutputId → Option (OutputDocument Metadata)

section

variable {Metadata : Type}

-- `update_one` matching `output_id`, `$set` of the whole document, `upsert(true)`.
def upsertOutputWithMetadata (collection : Collection Metadata) (outputId : OutputId)
    (output : Output) (metadata : Metadata) : Collection Metadata :=
  Function.update collection outputId (some ⟨output, metadata⟩)

-- `$match` on `output_id`, then `$replaceRoot` with `$output`.
def getOutput (collection : Collection Metadata) (outputId : OutputId) : Option Output :=
  (collection outputId).map (·.output)

-- `$match` on `output_id`, then `$replaceRoot` with `$metadata`.
def getOutputMetadata (collection : Collection Metadata) (outputId : OutputId) :
    Option Metadata :=
  (collection outputId).map (·.metadata)

-- The `match (maybe_output, maybe_metadata)` of `get_output_and_metadata`
def combine (maybeOutput : Option Output) (maybeMetadata : Option Metadata) :
    Option (Output × Metadata) :=
  match maybeOutput, maybeMetadata with
  | some output, some metadata => some (output, metadata)
  | _, _ => none

def getOutputAndMetadata (collection : Collection Metadata) (outputId : OutputId) :
    Option (Output × Metadata) :=
  combine (getOutput collection outputId) (getOutputMetadata collection outputId)

-- One `get_output_and_metadata` call interleaved with upserts of any output id.
inductive Reader (Metadata : Type) where
  | start
  | readOutput (maybeOutput : Option Output)
  | done (combined : Option (Output × Metadata))
deriving DecidableEq, Repr

inductive Action (Metadata : Type) where
  | read
  | upsert (outputId : OutputId) (output : Output) (metadata : Metadata)
deriving DecidableEq, Repr

structure System (Metadata : Type) where
  collection : Collection Metadata
  reader : Reader Metadata

def readerStep (outputId : OutputId) (collection : Collection Metadata) :
    Reader Metadata → Reader Metadata
  | .start => .readOutput (getOutput collection outputId)
  | .readOutput maybeOutput => .done (combine maybeOutput (getOutputMetadata collection outputId))
  | .done combined => .done combined

def step (outputId : OutputId) (system : System Metadata) : Action Metadata → System Metadata
  | .read => { system with reader := readerStep outputId system.collection system.reader }
  | .upsert other output metadata =>
    { system with collection := upsertOutputWithMetadata system.collection other output metadata }

def run (outputId : OutputId) (system : System Metadata) (actions : List (Action Metadata)) :
    System Metadata :=
  actions.foldl (step outputId) system

variable (outputId : OutputId)

@[simp]
theorem upsertOutputWithMetadata_same (collection : Collection Metadata) (output : Output)
    (metadata : Metadata) :
    upsertOutputWithMetadata collection outputId output metadata outputId =
      some ⟨output, metadata⟩ :=
  Function.update_same _ _ _

theorem upsertOutputWithMetadata_other (collection : Collection Metadata) (other : OutputId)
    (distinct : other ≠ outputId) (output : Output) (metadata : Metadata) :
    upsertOutputWithMetadata collection other output metadata outputId = collection outputId :=
  Function.update_noteq distinct.symm _ _

theorem combine_eq_some (maybeOutput : Option Output) (maybeMetadata : Option Metadata)
    (output : Output) (metadata : Metadata) :
    combine maybeOutput maybeMetadata = some (output, metadata) ↔
      maybeOutput = some output ∧ maybeMetadata = some metadata := by
  cases maybeOutput <;> cases maybeMetadata <;> simp [combine]

@[simp]
theorem run_cons (system : System Metadata) (action : Action Metadata)
    (actions : List (Action Metadata)) :
    run outputId system (action :: actions) = run outputId (step outputId system action) actions :=
  rfl

theorem run_append (system : System Metadata) (first second : List (Action Metadata)) :
    run outputId system (first ++ second) = run outputId (run outputId system first) second :=
  List.foldl_append _ _ _ _

theorem run_reader_of_read_not_mem (system : System Metadata) (actions : List (Action Metadata))
    (readFree : Action.read ∉ actions) : (run outputId system actions).reader = system.reader := by
  induction actions generalizing system with
  | nil => rfl
  | cons action actions ih =>
    cases action with
    | read => exact absurd (List.mem_cons_self _ _) readFree
    | upsert other output metadata =>
      exact ih _ fun mem => readFree (List.mem_cons_of_mem _ mem)

theorem run_reader_done (system : System Metadata) (combined : Option (Output × Metadata))
    (returned : system.reader = .done combined) (actions : List (Action Metadata)) :
    (run outputId system actions).reader = .done combined := by
  induction actions generalizing system with
  | nil => exact returned
  | cons action actions ih =>
    apply ih
    cases action <;> simp [step, readerStep, returned]

theorem run_document (system : System Metadata) (actions : List (Action Metadata)) :
    (run outputId system actions).collection outputId = system.collection outputId ∨
      ∃ output metadata, Action.upsert outputId output metadata ∈ actions ∧
        (run outputId system actions).collection outputId = some ⟨output, metadata⟩ := by
  induction actions generalizing system with
  | nil => exact .inl rfl
  | cons action actions ih =>
    rcases ih (step outputId system action) with same | ⟨output, metadata, mem, stored⟩
    · cases action with
      | read => exact .inl same
      | upsert other output metadata =>
        by_cases self : other = outputId
        · subst self
          exact .inr ⟨output, metadata, List.mem_cons_self _ _, by simpa [step] using same⟩
        · exact .inl (by simpa [step, upsertOutputWithMetadata_other _ _ _ self] using same)
    · exact .inr ⟨output, metadata, List.mem_cons_of_mem _ mem, stored⟩

section Interleaved

variable (collection : Collection Metadata) (pre mid post : List (Action Metadata))
  (preReadFree : Action.read ∉ pre) (midReadFree : Action.read ∉ mid)

include preReadFree midReadFree in
theorem run_reads_two_instants :
    (run outputId ⟨collection, .start⟩ (pre ++ .read :: mid ++ .read :: post)).reader =
      .done (combine (getOutput (run outputId ⟨collection, .start⟩ pre).collection outputId)
        (getOutputMetadata (run outputId ⟨collection, .start⟩ (pre ++ .read :: mid)).collection
          outputId)) := by
  have between : (run outputId ⟨collection, .start⟩ (pre ++ .read :: mid)).reader =
      .readOutput (getOutput (run outputId ⟨collection, .start⟩ pre).collection outputId) := by
    rw [run_append, run_cons, run_reader_of_read_not_mem _ _ _ midReadFree]
    simp [step, run_reader_of_read_not_mem _ _ _ preReadFree, readerStep]
  rw [run_append, run_cons]
  exact run_reader_done _ _ _ (by simp [step, between, readerStep]) _

include preReadFree in
theorem run_reads_one_instant :
    (run outputId ⟨collection, .start⟩ (pre ++ .read :: .read :: post)).reader =
      .done (getOutputAndMetadata (run outputId ⟨collection, .start⟩ pre).collection outputId) := by
  have := run_reads_two_instants outputId collection pre [] post preReadFree (List.not_mem_nil _)
  simpa [run_append, step, getOutputAndMetadata] using this

theorem stored_of_same_output
    (sameOutput : ∀ seen ∈ getOutput (run outputId ⟨collection, .start⟩ pre).collection outputId,
      ∀ output metadata, Action.upsert outputId output metadata ∈ mid → output = seen)
    (output : Output) (metadata : Metadata)
    (returned : combine (getOutput (run outputId ⟨collection, .start⟩ pre).collection outputId)
      (getOutputMetadata (run outputId ⟨collection, .start⟩ (pre ++ .read :: mid)).collection
        outputId) = some (output, metadata)) :
    (run outputId ⟨collection, .start⟩ (pre ++ .read :: mid)).collection outputId =
      some ⟨output, metadata⟩ := by
  obtain ⟨first, second⟩ := (combine_eq_some _ _ _ _).mp returned
  rw [run_append, run_cons] at second ⊢
  simp only [getOutput, getOutputMetadata, Option.map_eq_some'] at first second
  obtain ⟨seen, found, rfl⟩ := first
  rcases run_document outputId (step outputId (run outputId ⟨collection, .start⟩ pre) .read) mid
    with same | ⟨stored, storedMetadata, mem, now⟩
  · obtain ⟨document, again, rfl⟩ := second
    rw [same, step, found, Option.some.injEq] at again
    rw [same, step, found, again]
  · obtain ⟨document, again, rfl⟩ := second
    rw [now, Option.some.injEq] at again
    subst again
    rw [now, sameOutput seen.output (by simp [getOutput, found]) stored storedMetadata mem]

end Interleaved

end

theorem get_output_and_metadata_pairs_first_output_with_second_metadata {Metadata : Type}
    (outputId : OutputId) (collection : Collection Metadata) (pre mid post : List (Action Metadata))
    (preReadFree : Action.read ∉ pre) (midReadFree : Action.read ∉ mid) :
    (∃ combined,
      (run outputId ⟨collection, .start⟩ (pre ++ .read :: mid ++ .read :: post)).reader =
          .done combined ∧
        ∀ output metadata, combined = some (output, metadata) ↔
          ((run outputId ⟨collection, .start⟩ pre).collection outputId).map (·.output) =
              some output ∧
            ((run outputId ⟨collection, .start⟩ (pre ++ .read :: mid)).collection outputId).map
              (·.metadata) = some metadata) ∧
      ((∀ seen ∈ ((run outputId ⟨collection, .start⟩ pre).collection outputId).map (·.output),
          ∀ output metadata, Action.upsert outputId output metadata ∈ mid → output = seen) →
        ∀ output metadata,
          (run outputId ⟨collection, .start⟩ (pre ++ .read :: mid ++ .read :: post)).reader =
              .done (some (output, metadata)) →
            (run outputId ⟨collection, .start⟩ (pre ++ .read :: mid)).collection outputId =
              some ⟨output, metadata⟩) := by
  have returns := run_reads_two_instants outputId collection pre mid post preReadFree midReadFree
  refine ⟨⟨_, returns, fun output metadata => combine_eq_some _ _ _ _⟩,
    fun sameOutput output metadata returned => ?_⟩
  rw [returns, Reader.done.injEq] at returned
  exact stored_of_same_output outputId collection pre mid sameOutput output metadata returned

def versionOne : Collection Nat :=
  upsertOutputWithMetadata (fun _ => none) ⟨1, 0⟩ (.basic (.ed25519 1)) 1

theorem republished_output_read_whole :
    Action.read ∉ ([] : List (Action Nat)) ∧
      Action.read ∉ [Action.upsert ⟨1, 0⟩ (.basic (.ed25519 1)) 2] ∧
      (∃ combined,
        (run ⟨1, 0⟩ ⟨versionOne, .start⟩
            ([] ++ .read :: [.upsert ⟨1, 0⟩ (.basic (.ed25519 1)) 2] ++ .read :: [])).reader =
            .done combined ∧
          ∀ output metadata, combined = some (output, metadata) ↔
            ((run ⟨1, 0⟩ ⟨versionOne, .start⟩ []).collection ⟨1, 0⟩).map (·.output) =
                some output ∧
              ((run ⟨1, 0⟩ ⟨versionOne, .start⟩
                  ([] ++ .read :: [.upsert ⟨1, 0⟩ (.basic (.ed25519 1)) 2])).collection
                ⟨1, 0⟩).map (·.metadata) = some metadata) ∧
        ((∀ seen ∈ ((run ⟨1, 0⟩ ⟨versionOne, .start⟩ []).collection ⟨1, 0⟩).map (·.output),
            ∀ output metadata,
              Action.upsert ⟨1, 0⟩ output metadata ∈
                  [Action.upsert ⟨1, 0⟩ (.basic (.ed25519 1)) 2] →
                output = seen) →
          ∀ output metadata,
            (run ⟨1, 0⟩ ⟨versionOne, .start⟩
                ([] ++ .read :: [.upsert ⟨1, 0⟩ (.basic (.ed25519 1)) 2] ++ .read :: [])).reader =
                .done (some (output, metadata)) →
              (run ⟨1, 0⟩ ⟨versionOne, .start⟩
                  ([] ++ .read :: [.upsert ⟨1, 0⟩ (.basic (.ed25519 1)) 2])).collection ⟨1, 0⟩ =
                some ⟨output, metadata⟩) :=
  ⟨by simp, by simp, get_output_and_metadata_pairs_first_output_with_second_metadata _ _ _ _ []
    (by simp) (by simp)⟩

theorem upsert_between_queries_tears_output_and_metadata :
    (run ⟨1, 0⟩ ⟨versionOne, .start⟩
        [.read, .upsert ⟨1, 0⟩ (.basic (.ed25519 2)) 2, .read]).reader =
        .done (some (.basic (.ed25519 1), 2)) ∧
      ∀ count, (run ⟨1, 0⟩ ⟨versionOne, .start⟩
          ([.read, .upsert ⟨1, 0⟩ (.basic (.ed25519 2)) 2, .read].take count)).collection ⟨1, 0⟩ ≠
        some ⟨.basic (.ed25519 1), 2⟩ := by
  refine ⟨by decide, fun count => ?_⟩
  rcases count with _ | _ | _ | count
  all_goals simp only [List.take_succ_cons, List.take_zero, List.take_nil]
  all_goals decide

end Chronicle.Db
