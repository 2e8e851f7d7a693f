import Chronicle.Types.Ledger

set_option autoImplicit false

namespace Chronicle.Api

structure Page (Item Key : Type) where
  items : List Item
  cursor : Option Key

-- Modelled from the spec: the sorted store query, from the cursor on, up to the limit.
def storeQuery {Record Key : Type} (before : Key → Key → Prop) [DecidableRel before]
    (key : Record → Key) (records : List Record) (limit : UInt64) (cursor : Option Key) :
    List Record :=
  (records.filter fun record => cursor.all fun cursor => !decide (before (key record) cursor)).take
    limit.toNat

-- The paging the handlers share: `page_size + 1` records, the cursor from the extra one.
def paginate {Record Item Key : Type} (query : UInt64 → Option Key → List Record)
    (item : Record → Item) (cursorKey : Record → Key) (pageSize : UInt64) (cursor : Option Key) :
    Page Item Key :=
  { items := ((query (pageSize + 1) cursor).take pageSize.toNat).map item
    cursor := ((query (pageSize + 1) cursor).drop pageSize.toNat).head?.map cursorKey }

structure LedgerUpdateByAddressRecord where
  «at» : MilestoneIndexTimestamp
  outputId : OutputId
  isSpent : Bool
deriving DecidableEq, Repr

structure LedgerUpdatesByAddressCursor where
  milestoneIndex : Nat
  outputId : OutputId
  isSpent : Bool
deriving DecidableEq, Repr

def ledgerUpdatesByAddress
    (query : UInt64 → Option LedgerUpdatesByAddressCursor → List LedgerUpdateByAddressRecord)
    (pageSize : UInt64) (cursor : Option LedgerUpdatesByAddressCursor) :
    Page LedgerUpdateByAddressRecord LedgerUpdatesByAddressCursor :=
  paginate query id (fun record => ⟨record.at.milestoneIndex, record.outputId, record.isSpent⟩)
    pageSize cursor

structure MilestoneResult where
  milestoneId : Nat
  index : Nat
deriving DecidableEq, Repr

structure MilestonesCursor where
  milestoneIndex : Nat
deriving DecidableEq, Repr

def milestones (query : UInt64 → Option MilestonesCursor → List MilestoneResult)
    (pageSize : UInt64) (cursor : Option MilestonesCursor) :
    Page MilestoneResult MilestonesCursor :=
  paginate query id (fun record => ⟨record.index⟩) pageSize cursor

structure OutputResult where
  outputId : OutputId
  bookedIndex : Nat
deriving DecidableEq, Repr

structure IndexedOutputsCursor where
  milestoneIndex : Nat
  outputId : OutputId
deriving DecidableEq, Repr

def indexedOutputs (query : UInt64 → Option IndexedOutputsCursor → List OutputResult)
    (pageSize : UInt64) (cursor : Option IndexedOutputsCursor) :
    Page OutputId IndexedOutputsCursor :=
  paginate query (·.outputId) (fun record => ⟨record.bookedIndex, record.outputId⟩) pageSize cursor

structure BlockResult where
  blockId : Nat
  milestoneIndex : Nat
deriving DecidableEq, Repr

structure IndexedBlocksCursor where
  milestoneIndex : Nat
  blockId : Nat
deriving DecidableEq, Repr

def indexedTaggedData (query : UInt64 → Option IndexedBlocksCursor → List BlockResult)
    (pageSize : UInt64) (cursor : Option IndexedBlocksCursor) : Page Nat IndexedBlocksCursor :=
  paginate query (·.blockId) (fun record => ⟨record.milestoneIndex, record.blockId⟩) pageSize cursor

inductive ApiError where
  | notFound
  | noResults
deriving DecidableEq, Repr

structure LedgerUpdateByMilestoneRecord where
  outputId : OutputId
  isSpent : Bool
deriving DecidableEq, Repr

structure LedgerUpdatesByMilestoneCursor where
  outputId : OutputId
  isSpent : Bool
deriving DecidableEq, Repr

-- `ledger_updates_by_milestone`
def ledgerUpdatesByMilestone (milestoneIndexById : Nat → Option Nat)
    (query : Nat → UInt64 → Option LedgerUpdatesByMilestoneCursor →
      List LedgerUpdateByMilestoneRecord)
    (milestoneId : Nat) (pageSize : UInt64) (cursor : Option LedgerUpdatesByMilestoneCursor) :
    Except ApiError (Nat × Page LedgerUpdateByMilestoneRecord LedgerUpdatesByMilestoneCursor) :=
  match milestoneIndexById milestoneId with
  | none => .error .notFound
  | some milestoneIndex =>
    .ok (milestoneIndex, paginate (query milestoneIndex) id
      (fun record => ⟨record.outputId, record.isSpent⟩) pageSize cursor)

-- `indexed_output_by_id`
def indexedOutputById (ledgerIndex : Option Nat) (outputById : Nat → Nat → Option OutputResult)
    (id : Nat) : Except ApiError (Nat × Page OutputId IndexedOutputsCursor) :=
  match ledgerIndex with
  | none => .error .noResults
  | some ledgerIndex =>
    match outputById id ledgerIndex with
    | none => .error .noResults
    | some output => .ok (ledgerIndex, { items := [output.outputId], cursor := none })

-- A client following the cursors from none, for at most `fuel` requests.
def pageRun {Item Key : Type} (handler : Option Key → Page Item Key) :
    Nat → Option Key → Option (List (List Item))
  | 0, _ => none
  | fuel + 1, cursor =>
    match (handler cursor).cursor with
    | none => some [(handler cursor).items]
    | some next => (pageRun handler fuel (some next)).map ((handler cursor).items :: ·)

theorem toNat_add_one (pageSize : UInt64) (noWrap : pageSize.toNat < 2 ^ 64 - 1) :
    (pageSize + 1).toNat = pageSize.toNat + 1 := by
  simp only [UInt64.toNat, UInt64.add_def, BitVec.toNat_add] at noWrap ⊢
  simp only [UInt64.toBitVec_ofNat, BitVec.toNat_ofNat]
  omega

section Sorted

variable {Record Key : Type} (before : Key → Key → Prop) [DecidableRel before]
  (asymm : ∀ a b, before a b → ¬ before b a) (key : Record → Key)

include asymm in
theorem filter_at_or_after (pre : List Record) (record : Record) (post : List Record)
    (sorted : (pre ++ record :: post).Pairwise fun a b => before (key a) (key b)) :
    (pre ++ record :: post).filter (fun other => !decide (before (key other) (key record))) =
      record :: post := by
  obtain ⟨-, tail, across⟩ := List.pairwise_append.mp sorted
  have dropped : pre.filter (fun other => !decide (before (key other) (key record))) = [] := by
    simpa using fun other mem => across other mem record (by simp)
  have kept : post.filter (fun other => !decide (before (key other) (key record))) = post := by
    simpa using fun other mem => asymm _ _ (List.rel_of_pairwise_cons tail mem)
  have self : (!decide (before (key record) (key record))) = true := by
    simpa using fun early => asymm _ _ early early
  rw [List.filter_append, dropped, List.nil_append, List.filter_cons, if_pos self, kept]

end Sorted

theorem ceil_div_le_one (length pageSize : Nat) (positive : 0 < pageSize)
    (fits : length ≤ pageSize) : (length + pageSize - 1) / pageSize ≤ 1 :=
  Nat.lt_succ_iff.mp ((Nat.div_lt_iff_lt_mul positive).mpr (by omega))

theorem ceil_div_step (length pageSize : Nat) (positive : 0 < pageSize)
    (longer : pageSize < length) :
    (length + pageSize - 1) / pageSize = (length - pageSize + pageSize - 1) / pageSize + 1 ∧
      1 ≤ (length - pageSize + pageSize - 1) / pageSize := by
  constructor
  · rw [← Nat.add_div_right _ positive]
    congr 1
    omega
  · exact (Nat.le_div_iff_mul_le positive).mpr (by omega)

section Run

variable {Record Item Key : Type} (before : Key → Key → Prop) [DecidableRel before]
  (key : Record → Key) (item : Record → Item) (records : List Record)

theorem paginate_storeQuery (pageSize : UInt64) (noWrap : pageSize.toNat < 2 ^ 64 - 1)
    (cursor : Option Key) (rest : List Record)
    (queried : records.filter (fun record => cursor.all fun cursor =>
      !decide (before (key record) cursor)) = rest) :
    paginate (storeQuery before key records) item key pageSize cursor =
      { items := (rest.take pageSize.toNat).map item
        cursor := (rest.drop pageSize.toNat).head?.map key } := by
  simp [paginate, storeQuery, queried, toNat_add_one pageSize noWrap, List.take_take,
    List.drop_take, List.head?_take]

variable (asymm : ∀ a b, before a b → ¬ before b a)
  (sorted : records.Pairwise fun a b => before (key a) (key b))

include asymm sorted in
theorem resume_at_cursor (pre rest : List Record) (pageSize : Nat) (next : Record)
    (post : List Record) (split : records = pre ++ rest)
    (remaining : rest.drop pageSize = next :: post) :
    records = (pre ++ rest.take pageSize) ++ next :: post ∧
      records.filter (fun record => (some (key next)).all fun cursor =>
        !decide (before (key record) cursor)) = next :: post := by
  have resumed : records = (pre ++ rest.take pageSize) ++ next :: post := by
    rw [List.append_assoc, ← remaining, List.take_append_drop, split]
  refine ⟨resumed, ?_⟩
  simp only [Option.all_some]
  rw [resumed]
  exact filter_at_or_after before asymm key _ _ _ (resumed ▸ sorted)

include asymm sorted in
theorem pageRun_rest (pageSize : UInt64) (positive : 0 < pageSize.toNat)
    (noWrap : pageSize.toNat < 2 ^ 64 - 1) (fuel : Nat) :
    ∀ (pre rest : List Record) (cursor : Option Key), records = pre ++ rest →
      records.filter (fun record => cursor.all fun cursor =>
        !decide (before (key record) cursor)) = rest →
      max 1 ((rest.length + pageSize.toNat - 1) / pageSize.toNat) ≤ fuel →
      ∃ pages, pageRun (paginate (storeQuery before key records) item key pageSize) fuel cursor =
          some pages ∧ pages.flatten = rest.map item ∧
        pages.length = max 1 ((rest.length + pageSize.toNat - 1) / pageSize.toNat) := by
  induction fuel with
  | zero => intro _ _ _ _ _ enough; omega
  | succ fuel ih =>
    intro pre rest cursor split queried enough
    rw [pageRun, paginate_storeQuery before key item records pageSize noWrap cursor rest queried]
    cases remaining : rest.drop pageSize.toNat with
    | nil =>
      have fits : rest.length ≤ pageSize.toNat := List.drop_eq_nil_iff.mp remaining
      have := ceil_div_le_one _ _ positive fits
      exact ⟨_, rfl, by simp [List.take_of_length_le fits], by simp; omega⟩
    | cons next post =>
      obtain ⟨resumed, requeried⟩ :=
        resume_at_cursor before key records asymm sorted pre rest _ next post split remaining
      have shorter : (next :: post).length = rest.length - pageSize.toNat := by
        rw [← remaining, List.length_drop]
      have longer : pageSize.toNat < rest.length := by
        simp only [List.length_cons] at shorter
        omega
      obtain ⟨step, atLeastOne⟩ := ceil_div_step rest.length pageSize.toNat positive longer
      obtain ⟨pages, run, joined, counted⟩ :=
        ih _ (next :: post) (some (key next)) resumed requeried (by rw [shorter]; omega)
      refine ⟨(rest.take pageSize.toNat).map item :: pages, by simp [run], ?_, ?_⟩
      · rw [List.flatten_cons, joined, ← List.map_append, ← remaining, List.take_append_drop]
      · rw [List.length_cons, counted, shorter]
        omega

end Run

section Handlers

variable (pageSize : UInt64) (positive : 0 < pageSize.toNat)
  (noWrap : pageSize.toNat < 2 ^ 64 - 1) (fuel : Nat)

include positive noWrap in
theorem ledgerUpdatesByAddress_pages_each_update_once
    (before : LedgerUpdatesByAddressCursor → LedgerUpdatesByAddressCursor → Prop)
    [DecidableRel before] (asymm : ∀ a b, before a b → ¬ before b a)
    (records : List LedgerUpdateByAddressRecord)
    (sorted : records.Pairwise fun a b => before ⟨a.at.milestoneIndex, a.outputId, a.isSpent⟩
      ⟨b.at.milestoneIndex, b.outputId, b.isSpent⟩)
    (enough : max 1 ((records.length + pageSize.toNat - 1) / pageSize.toNat) ≤ fuel) :
    ∃ pages, pageRun (ledgerUpdatesByAddress (storeQuery before
        (fun record => ⟨record.at.milestoneIndex, record.outputId, record.isSpent⟩) records)
        pageSize) fuel none = some pages ∧ pages.flatten = records ∧
      pages.length = max 1 ((records.length + pageSize.toNat - 1) / pageSize.toNat) := by
  simpa using pageRun_rest before _ id records asymm sorted pageSize positive noWrap fuel [] records
    none rfl (by simp) enough

include positive noWrap in
theorem milestones_pages_each_milestone_once (before : MilestonesCursor → MilestonesCursor → Prop)
    [DecidableRel before] (asymm : ∀ a b, before a b → ¬ before b a)
    (records : List MilestoneResult)
    (sorted : records.Pairwise fun a b => before ⟨a.index⟩ ⟨b.index⟩)
    (enough : max 1 ((records.length + pageSize.toNat - 1) / pageSize.toNat) ≤ fuel) :
    ∃ pages, pageRun (milestones (storeQuery before (fun record => ⟨record.index⟩) records)
        pageSize) fuel none = some pages ∧ pages.flatten = records ∧
      pages.length = max 1 ((records.length + pageSize.toNat - 1) / pageSize.toNat) := by
  simpa using pageRun_rest before _ id records asymm sorted pageSize positive noWrap fuel [] records
    none rfl (by simp) enough

include positive noWrap in
theorem indexedOutputs_pages_each_output_once
    (before : IndexedOutputsCursor → IndexedOutputsCursor → Prop) [DecidableRel before]
    (asymm : ∀ a b, before a b → ¬ before b a) (records : List OutputResult)
    (sorted : records.Pairwise fun a b =>
      before ⟨a.bookedIndex, a.outputId⟩ ⟨b.bookedIndex, b.outputId⟩)
    (enough : max 1 ((records.length + pageSize.toNat - 1) / pageSize.toNat) ≤ fuel) :
    ∃ pages, pageRun (indexedOutputs (storeQuery before
        (fun record => ⟨record.bookedIndex, record.outputId⟩) records) pageSize) fuel none =
          some pages ∧ pages.flatten = records.map (·.outputId) ∧
      pages.length = max 1 ((records.length + pageSize.toNat - 1) / pageSize.toNat) :=
  pageRun_rest before _ _ records asymm sorted pageSize positive noWrap fuel [] records none rfl
    (by simp) enough

include positive noWrap in
theorem indexedTaggedData_pages_each_block_once
    (before : IndexedBlocksCursor → IndexedBlocksCursor → Prop) [DecidableRel before]
    (asymm : ∀ a b, before a b → ¬ before b a) (records : List BlockResult)
    (sorted : records.Pairwise fun a b =>
      before ⟨a.milestoneIndex, a.blockId⟩ ⟨b.milestoneIndex, b.blockId⟩)
    (enough : max 1 ((records.length + pageSize.toNat - 1) / pageSize.toNat) ≤ fuel) :
    ∃ pages, pageRun (indexedTaggedData (storeQuery before
        (fun record => ⟨record.milestoneIndex, record.blockId⟩) records) pageSize) fuel none =
          some pages ∧ pages.flatten = records.map (·.blockId) ∧
      pages.length = max 1 ((records.length + pageSize.toNat - 1) / pageSize.toNat) :=
  pageRun_rest before _ _ records asymm sorted pageSize positive noWrap fuel [] records none rfl
    (by simp) enough

end Handlers

end Chronicle.Api
