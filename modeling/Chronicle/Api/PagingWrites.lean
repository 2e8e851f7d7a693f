import Chronicle.Api.Paging

set_option autoImplicit false

namespace Chronicle.Api

-- A client whose `i`-th request reads the store as it is at that moment.
def pageRunAgainst {Item Key : Type} :
    List (Option Key → Page Item Key) → Option Key → Option (List (List Item))
  | [], _ => none
  | handler :: later, cursor =>
    match (handler cursor).cursor with
    | none => some [(handler cursor).items]
    | some next => (pageRunAgainst later (some next)).map ((handler cursor).items :: ·)

theorem pageRun_eq_pageRunAgainst {Item Key : Type} (handler : Option Key → Page Item Key)
    (fuel : Nat) (cursor : Option Key) :
    pageRun handler fuel cursor = pageRunAgainst (List.replicate fuel handler) cursor := by
  induction fuel generalizing cursor with
  | zero => rfl
  | succ fuel ih =>
    rw [pageRun, List.replicate_succ, pageRunAgainst]
    cases (handler cursor).cursor <;> simp [ih]

section Writes

variable {Record Item Key : Type} (before : Key → Key → Prop) [DecidableRel before]
  (key : Record → Key)

def atOrAfter (cursor : Option Key) (record : Record) : Bool :=
  cursor.all fun cursor => !decide (before (key record) cursor)

@[simp]
theorem atOrAfter_none (record : Record) : atOrAfter before key none record = true := rfl

@[simp]
theorem atOrAfter_some (cursor : Key) (record : Record) :
    atOrAfter before key (some cursor) record = true ↔ ¬ before (key record) cursor := by
  simp [atOrAfter]

variable (asymm : ∀ a b, before a b → ¬ before b a)
  (transitive : ∀ a b c, before a b → before b c → before a c)
  (total : ∀ a b, before a b ∨ a = b ∨ before b a)

omit [DecidableRel before] in
include transitive total in
theorem before_of_not_before {a b c : Key} (early : before a b) (notEarly : ¬ before c b) :
    before a c := by
  rcases total a c with ordered | rfl | reversed
  · exact ordered
  · exact absurd early notEarly
  · exact absurd (transitive _ _ _ reversed early) notEarly

include transitive total in
theorem atOrAfter_of_next (cursor : Option Key) (next : Key) (record : Record)
    (past : ∀ bound ∈ cursor, ¬ before next bound)
    (after : atOrAfter before key (some next) record = true) :
    atOrAfter before key cursor record = true := by
  cases cursor with
  | none => rfl
  | some bound =>
    rw [atOrAfter_some] at after ⊢
    exact fun early => after (before_of_not_before before transitive total early (past bound rfl))

include asymm transitive total in
theorem suffix_atOrAfter (records : List Record)
    (sorted : records.Pairwise fun a b => before (key a) (key b)) (cursor : Option Key) :
    ∃ pre, records = pre ++ records.filter (atOrAfter before key cursor) := by
  induction records with
  | nil => exact ⟨[], rfl⟩
  | cons head tail ih =>
    obtain ⟨headFirst, tailSorted⟩ := List.pairwise_cons.mp sorted
    cases atHead : atOrAfter before key cursor head with
    | true =>
      have past : ∀ bound ∈ cursor, ¬ before (key head) bound := by
        intro bound same
        rw [show cursor = some bound from same, atOrAfter_some] at atHead
        exact atHead
      have kept : tail.filter (atOrAfter before key cursor) = tail :=
        List.filter_eq_self.mpr fun record mem =>
          atOrAfter_of_next before key transitive total cursor (key head) record past
            ((atOrAfter_some before key _ _).mpr (asymm _ _ (headFirst record mem)))
      exact ⟨[], by rw [List.filter_cons_of_pos atHead, kept, List.nil_append]⟩
    | false =>
      obtain ⟨pre, split⟩ := ih tailSorted
      refine ⟨head :: pre, ?_⟩
      rw [List.filter_cons_of_neg (by simp [atHead]), List.cons_append, ← split]

include asymm in
theorem page_against (item : Record → Item) (records : List Record)
    (sorted : records.Pairwise fun a b => before (key a) (key b)) (pageSize : UInt64)
    (noWrap : pageSize.toNat < 2 ^ 64 - 1) (cursor : Option Key) :
    ∃ taken : List Record,
      (paginate (storeQuery before key records) item key pageSize cursor).items = taken.map item ∧
      taken.Pairwise (fun a b => before (key a) (key b)) ∧
      (∀ record ∈ taken, record ∈ records ∧ atOrAfter before key cursor record = true) ∧
      (∀ next, (paginate (storeQuery before key records) item key pageSize cursor).cursor =
          some next →
        (∀ bound ∈ cursor, ¬ before next bound) ∧ ∀ record ∈ taken, before (key record) next) ∧
      ∀ record ∈ records, atOrAfter before key cursor record = true →
        record ∈ taken ∨ ∃ next,
          (paginate (storeQuery before key records) item key pageSize cursor).cursor = some next ∧
            atOrAfter before key (some next) record = true := by
  have restSorted := sorted.filter (atOrAfter before key cursor)
  rw [paginate_storeQuery before key item records pageSize noWrap cursor
    (records.filter (atOrAfter before key cursor)) rfl]
  set rest := records.filter (atOrAfter before key cursor)
  have inRest : ∀ record, record ∈ rest ↔
      record ∈ records ∧ atOrAfter before key cursor record = true := fun _ => List.mem_filter
  refine ⟨rest.take pageSize.toNat, rfl, restSorted.sublist (List.take_sublist _ _),
    fun record mem => (inRest record).mp (List.mem_of_mem_take mem), ?_⟩
  cases remaining : rest.drop pageSize.toNat with
  | nil =>
    have whole := List.take_of_length_le (List.drop_eq_nil_iff.mp remaining)
    exact ⟨by simp, fun record mem atOrAfterCursor =>
      .inl (by rw [whole]; exact (inRest record).mpr ⟨mem, atOrAfterCursor⟩)⟩
  | cons head tail =>
    have split : rest = rest.take pageSize.toNat ++ head :: tail :=
      remaining ▸ (List.take_append_drop _ _).symm
    obtain ⟨-, dropSorted, across⟩ := List.pairwise_append.mp (split ▸ restSorted)
    have headAfter :=
      ((inRest head).mp (List.mem_of_mem_drop (remaining ▸ List.mem_cons_self _ _))).2
    refine ⟨fun next found => ?_, fun record mem atOrAfterCursor => ?_⟩
    · cases found
      refine ⟨fun bound same => ?_, fun record mem => across record mem head (by simp)⟩
      rwa [show cursor = some bound from same, atOrAfter_some] at headAfter
    · rcases List.mem_append.mp (split ▸ (inRest record).mpr ⟨mem, atOrAfterCursor⟩) with
        taken | dropped
      · exact .inl taken
      · refine .inr ⟨key head, rfl, (atOrAfter_some before key _ _).mpr ?_⟩
        rcases List.mem_cons.mp dropped with rfl | later
        · exact fun early => asymm _ _ early early
        · exact asymm _ _ (List.rel_of_pairwise_cons dropSorted later)

include asymm transitive total in
theorem paged_run_under_writes_is_ordered_and_complete (item : Record → Item) (pageSize : UInt64)
    (noWrap : pageSize.toNat < 2 ^ 64 - 1) (versions : List (List Record))
    (sorted : ∀ records ∈ versions, records.Pairwise fun a b => before (key a) (key b))
    (cursor : Option Key) (pages : List (List Item))
    (completed : pageRunAgainst (versions.map fun records =>
      paginate (storeQuery before key records) item key pageSize) cursor = some pages) :
    ∃ returned : List Record, pages.flatten = returned.map item ∧
      returned.Pairwise (fun a b => before (key a) (key b)) ∧
      (∀ record ∈ returned, atOrAfter before key cursor record = true ∧
        ∃ records ∈ versions.take pages.length, record ∈ records) ∧
      ∀ record, (∀ records ∈ versions.take pages.length, record ∈ records) →
        atOrAfter before key cursor record = true → record ∈ returned := by
  induction versions generalizing cursor pages with
  | nil => simp [pageRunAgainst] at completed
  | cons records later ih =>
    obtain ⟨taken, items, takenSorted, takenFrom, passed, covers⟩ :=
      page_against before key asymm item records (sorted records (List.mem_cons_self _ _))
        pageSize noWrap cursor
    simp only [List.map_cons, pageRunAgainst] at completed
    cases handed : (paginate (storeQuery before key records) item key pageSize cursor).cursor with
    | none =>
      rw [handed, Option.some.injEq] at completed
      subst completed
      exact ⟨taken, by simp [items], takenSorted,
        fun record mem => ⟨(takenFrom record mem).2, records, by simp, (takenFrom record mem).1⟩,
        fun record everywhere atOrAfterCursor =>
          (covers record (everywhere records (by simp)) atOrAfterCursor).resolve_right
            (by simp [handed])⟩
    | some next =>
      rw [handed, Option.map_eq_some'] at completed
      obtain ⟨rest, run, rfl⟩ := completed
      obtain ⟨nextPast, takenBefore⟩ := passed next handed
      obtain ⟨returned, flattened, returnedSorted, returnedFrom, returnedCovers⟩ :=
        ih (fun records mem => sorted records (List.mem_cons_of_mem _ mem)) (some next) rest run
      refine ⟨taken ++ returned, by simp [items, flattened], ?_, ?_, ?_⟩
      · exact List.pairwise_append.mpr ⟨takenSorted, returnedSorted, fun a early b late =>
          before_of_not_before before transitive total (takenBefore a early)
            ((atOrAfter_some before key next b).mp (returnedFrom b late).1)⟩
      · intro record mem
        rcases List.mem_append.mp mem with early | late
        · exact ⟨(takenFrom record early).2, records, by simp, (takenFrom record early).1⟩
        · obtain ⟨atOrAfterNext, version, consulted, stored⟩ := returnedFrom record late
          exact ⟨atOrAfter_of_next before key transitive total cursor next record nextPast
            atOrAfterNext, version, by simp [consulted], stored⟩
      · intro record everywhere atOrAfterCursor
        rcases covers record (everywhere records (by simp)) atOrAfterCursor with
          found | ⟨_, same, atOrAfterNext⟩
        · exact List.mem_append_left _ found
        · obtain rfl := Option.some.inj (handed.symm.trans same)
          exact List.mem_append_right _ (returnedCovers record
            (fun version consulted => everywhere version (by simp [consulted])) atOrAfterNext)

include asymm transitive total in
theorem paged_run_finishes_once_writes_stop (item : Record → Item) (pageSize : UInt64)
    (positive : 0 < pageSize.toNat) (noWrap : pageSize.toNat < 2 ^ 64 - 1)
    (versions : List (List Record)) (final : List Record)
    (sorted : final.Pairwise fun a b => before (key a) (key b)) (fuel : Nat)
    (enough : max 1 ((final.length + pageSize.toNat - 1) / pageSize.toNat) ≤ fuel)
    (cursor : Option Key) :
    (pageRunAgainst ((versions ++ List.replicate fuel final).map fun records =>
      paginate (storeQuery before key records) item key pageSize) cursor).isSome := by
  induction versions generalizing cursor with
  | nil =>
    obtain ⟨pre, split⟩ := suffix_atOrAfter before key asymm transitive total final sorted cursor
    have ceilMono : ((final.filter (atOrAfter before key cursor)).length + pageSize.toNat - 1) /
        pageSize.toNat ≤ (final.length + pageSize.toNat - 1) / pageSize.toNat :=
      Nat.div_le_div_right
        (Nat.sub_le_sub_right (Nat.add_le_add_right (List.length_filter_le _ _) _) _)
    obtain ⟨pages, run, -⟩ := pageRun_rest before key item final asymm sorted pageSize positive
      noWrap fuel pre _ cursor split rfl (by omega)
    rw [List.nil_append, List.map_replicate, ← pageRun_eq_pageRunAgainst, run]
    rfl
  | cons records later ih =>
    simp only [List.cons_append, List.map_cons, pageRunAgainst]
    cases (paginate (storeQuery before key records) item key pageSize cursor).cursor with
    | none => rfl
    | some next => simpa using ih (some next)

end Writes

def milestonesBefore (a b : MilestonesCursor) : Prop := a.milestoneIndex < b.milestoneIndex

instance : DecidableRel milestonesBefore := fun a b => Nat.decLt a.milestoneIndex b.milestoneIndex

def milestoneCursor (record : MilestoneResult) : MilestonesCursor := ⟨record.index⟩

theorem milestone_stored_between_requests :
    pageRunAgainst ([[⟨10, 1⟩, ⟨11, 2⟩, ⟨12, 3⟩], [⟨10, 1⟩, ⟨11, 2⟩, ⟨12, 3⟩, ⟨13, 4⟩]].map
        fun records => paginate (storeQuery milestonesBefore milestoneCursor records) id
          milestoneCursor 2) none = some [[⟨10, 1⟩, ⟨11, 2⟩], [⟨12, 3⟩, ⟨13, 4⟩]] ∧
      ∃ returned : List MilestoneResult,
        [[⟨10, 1⟩, ⟨11, 2⟩], [⟨12, 3⟩, ⟨13, 4⟩]].flatten = returned.map id ∧
        returned.Pairwise (fun a b => milestonesBefore (milestoneCursor a) (milestoneCursor b)) ∧
        (∀ record ∈ returned, atOrAfter milestonesBefore milestoneCursor none record = true ∧
          ∃ records ∈ ([[⟨10, 1⟩, ⟨11, 2⟩, ⟨12, 3⟩], [⟨10, 1⟩, ⟨11, 2⟩, ⟨12, 3⟩, ⟨13, 4⟩]] :
              List (List MilestoneResult)).take
            ([[⟨10, 1⟩, ⟨11, 2⟩], [⟨12, 3⟩, ⟨13, 4⟩]] : List (List MilestoneResult)).length,
            record ∈ records) ∧
        ∀ record, (∀ records ∈ ([[⟨10, 1⟩, ⟨11, 2⟩, ⟨12, 3⟩],
            [⟨10, 1⟩, ⟨11, 2⟩, ⟨12, 3⟩, ⟨13, 4⟩]] : List (List MilestoneResult)).take
              ([[⟨10, 1⟩, ⟨11, 2⟩], [⟨12, 3⟩, ⟨13, 4⟩]] : List (List MilestoneResult)).length,
              record ∈ records) →
          atOrAfter milestonesBefore milestoneCursor none record = true → record ∈ returned :=
  ⟨by decide, paged_run_under_writes_is_ordered_and_complete milestonesBefore milestoneCursor
    (fun _ _ => Nat.lt_asymm) (fun _ _ _ => Nat.lt_trans)
    (fun ⟨a⟩ ⟨b⟩ => by simp only [milestonesBefore, MilestonesCursor.mk.injEq]; omega)
    id 2 (by decide) _ (by decide) none _ (by decide)⟩

theorem milestone_stored_then_quiet :
    (pageRunAgainst (([[⟨10, 1⟩, ⟨11, 2⟩, ⟨12, 3⟩]] ++
        List.replicate 2 [⟨10, 1⟩, ⟨11, 2⟩, ⟨12, 3⟩, ⟨13, 4⟩] : List (List MilestoneResult)).map
          fun records =>
          paginate (storeQuery milestonesBefore milestoneCursor records) id milestoneCursor 2)
        none).isSome :=
  paged_run_finishes_once_writes_stop milestonesBefore milestoneCursor (fun _ _ => Nat.lt_asymm)
    (fun _ _ _ => Nat.lt_trans)
    (fun ⟨a⟩ ⟨b⟩ => by simp only [milestonesBefore, MilestonesCursor.mk.injEq]; omega)
    id 2 (by decide) (by decide) _ _ (by decide) 2 (by decide) none

end Chronicle.Api
