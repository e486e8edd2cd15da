import Mathlib.Data.List.Sort
import Mathlib.Data.Prod.Lex
import TrafficLens.Proofs.Service.Endurance

/-!
# Jobs come to the end of their listings

A job fetches a page, and then the one behind the last trace of that page. Meanwhile traces leave
the listing, as they are linked or analyzed, and others stay in it, as they fail. Since the traces
are ordered by time and identifier, and a trace that leaves was on a page that is done, what is left
to fetch is always the rest of the listing as it was at the start (`Listing.remaining_of_changes`).
So the pages are cut from that listing, one after another, and the first empty one is the end
(`Listing.GoesThrough.exhausts`).
-/

namespace TrafficLens

open Attempt

/-! ## Traces in order -/

/-- The place of a cursor: by time, in the microseconds of columns, and then by identifier. -/
def Cursor.position (c : Cursor) : ℤ ×ₗ ℕ := toLex (c.1.toColumn.stamp, c.2.value.val)

namespace Trace

/-- The place of a trace in the listings. -/
def position (trace : Trace) : ℤ ×ₗ ℕ := trace.cursor.position

@[simp] theorem position_cursor (trace : Trace) : trace.cursor.position = trace.position := rfl

/-- Does one trace come before the other, or at the same place? -/
def Precedes (a b : Trace) : Prop := a.position ≤ b.position

instance : DecidableRel Precedes := fun a b => inferInstanceAs (Decidable (a.position ≤ b.position))

instance : Std.Total Precedes := ⟨fun a b => le_total a.position b.position⟩

instance : IsTrans Trace Precedes := ⟨fun _ _ _ hab hbc => hab.trans hbc⟩

/-- Traces in the order of the listings. -/
def inOrder (traces : List Trace) : List Trace := traces.insertionSort Precedes

/-- The traces are in order, and no two of them have one place. -/
def Ordered (traces : List Trace) : Prop := traces.Pairwise fun a b => a.position < b.position

variable {traces others : List Trace}

theorem id_eq_of_position_eq {a b : Trace} (h : a.position = b.position) : a.id = b.id := by
  have hval : a.id.value.val = b.id.value.val := (Prod.ext_iff.1 (toLex_inj.1 h)).2
  exact congrArg Uuid.mk (Fin.ext hval)

theorem perm_inOrder (traces : List Trace) : (inOrder traces).Perm traces :=
  List.perm_insertionSort ..

theorem pairwise_inOrder (traces : List Trace) : (inOrder traces).Pairwise Precedes :=
  List.pairwise_insertionSort ..

/-- Traces with different identifiers have different places. -/
theorem ordered_inOrder (h : (traces.map Trace.id).Nodup) : Ordered (inOrder traces) := by
  have hids : (inOrder traces).Pairwise fun a b => a.id ≠ b.id :=
    List.pairwise_map.1 (((perm_inOrder traces).map Trace.id).nodup_iff.2 h)
  exact (pairwise_inOrder traces).imp₂
    (fun _ _ hle hne => lt_of_le_of_ne hle fun h => hne (id_eq_of_position_eq h)) hids

theorem Ordered.eq_of_position (h : Ordered traces) {a b : Trace} (ha : a ∈ traces)
    (hb : b ∈ traces) (hab : a.position = b.position) : a = b :=
  List.inj_on_of_nodup_map (List.pairwise_map.2 (h.imp ne_of_lt)) ha hb hab

theorem Ordered.nodup (h : Ordered traces) : traces.Nodup := by
  refine List.Pairwise.imp (fun {a b} hlt => ?_) h
  rintro rfl
  exact lt_irrefl _ hlt

/-- Traces are put in order in one way only. -/
theorem Ordered.inOrder_eq (h : Ordered traces) (hperm : others.Perm traces) :
    inOrder others = traces := by
  have hsame : (inOrder others).Perm traces := (perm_inOrder others).trans hperm
  refine hsame.eq_of_pairwise (fun a b ha hb hab hba => ?_) (pairwise_inOrder others)
    (h.imp le_of_lt)
  exact h.eq_of_position (hsame.subset ha) hb (le_antisymm hab hba)

theorem Ordered.le_last (h : Ordered traces) {trace last : Trace}
    (hlast : traces.getLast? = some last) (htrace : trace ∈ traces) :
    trace.position ≤ last.position := by
  obtain ⟨init, rfl⟩ := List.getLast?_eq_some_iff.1 hlast
  rcases List.mem_append.1 htrace with htrace | htrace
  · exact ((List.pairwise_append.1 h).2.2 trace htrace last List.mem_cons_self).le
  · exact (List.mem_singleton.1 htrace ▸ le_refl _)

/-- What lies behind the last of the first traces is the rest. -/
theorem Ordered.filter_behind (h : Ordered traces) {n : Nat} {last : Trace}
    (hlast : (traces.take n).getLast? = some last) :
    traces.filter (fun trace => decide (last.position < trace.position)) = traces.drop n := by
  have hsplit : (traces.take n ++ traces.drop n).Pairwise fun a b => a.position < b.position :=
    (List.take_append_drop n traces).symm ▸ h
  obtain ⟨hbefore, -, hbehind⟩ := List.pairwise_append.1 hsplit
  have hnone : (traces.take n).filter (fun trace => decide (last.position < trace.position)) = [] :=
    List.filter_eq_nil_iff.2 fun trace htrace hlt =>
      (Ordered.le_last hbefore hlast htrace).not_gt (of_decide_eq_true hlt)
  have hall : (traces.drop n).filter (fun trace => decide (last.position < trace.position)) =
      traces.drop n :=
    List.filter_eq_self.2 fun trace htrace =>
      decide_eq_true (hbehind last (List.mem_of_getLast? hlast) trace htrace)
  conv_lhs => rw [← List.take_append_drop n traces]
  rw [List.filter_append, hnone, hall, List.nil_append]

end Trace

/-! ## Tables and what is fetched from them -/

namespace Listing

/-- Does the trace belong to the listing, as it is? -/
def wants : Listing → Trace → Bool
  | unlinked, trace => trace.endpointId.isNone
  | unanalyzed, trace => trace.endpointId.isSome && !trace.analyzed

/-- Is the trace in the listing up to a time, behind a cursor? -/
def selects (l : Listing) (cutoff : Instant) (after : Option Cursor) (trace : Trace) : Bool :=
  l.wants trace && decide (trace.createdAt.toColumn.stamp ≤ cutoff.toColumn.stamp) &&
    after.all fun c => decide (c.position < trace.position)

/-- The rest of the listing behind a cursor, in order. -/
def remaining (l : Listing) (table : List Trace) (cutoff : Instant) (after : Option Cursor) :
    List Trace :=
  Trace.inOrder (table.filter (l.selects cutoff after))

/-- Some of the traces that were visited have left the listing, and nothing else has happened to the
table. -/
def Changes (l : Listing) (visited table table' : List Trace) : Prop :=
  List.Forall₂ (fun old new => new = old ∨ old ∈ visited ∧ l.wants new = false) table table'

end Listing

/-- The first traces of the rest of the listing, as the table has them. -/
def PageQuery.answer (q : PageQuery) (table : List Trace) : List Trace :=
  (q.listing.remaining table q.cutoff q.after).take q.limit.toNat

/-- Each query is answered with what the table has at its time. Between the queries some of the
traces that were on the last page leave the listing. -/
inductive Truthful : (table : List Trace) → List PageQuery → Prop
  | nil (table : List Trace) : Truthful table []
  | cons {table table' : List Trace} {q : PageQuery} {queries : List PageQuery}
    (hreply : q.reply = .ok (q.answer table))
    (hchanges : q.listing.Changes (q.answer table) table table')
    (hrest : Truthful table' queries) : Truthful table (q :: queries)

/-- What a truthful database answers to the first query. -/
theorem Truthful.of_cons {table : List Trace} {l : Listing} {cutoff : Instant}
    {after : Option Cursor} {size : Int} {traces : List Trace} {queries : List PageQuery}
    (h : Truthful table (⟨l, cutoff, after, size, .ok traces⟩ :: queries)) :
    traces = (l.remaining table cutoff after).take size.toNat ∧
      ∃ table', l.Changes traces table table' ∧ Truthful table' queries := by
  cases h with
  | cons hreply hchanges hrest =>
    have hpage : traces = (l.remaining table cutoff after).take size.toNat := Except.ok.inj hreply
    refine ⟨hpage, _, ?_, hrest⟩
    rw [hpage]
    exact hchanges

namespace Listing

variable {l : Listing} {table table' visited : List Trace} {cutoff : Instant}
  {after : Option Cursor} {last : Trace} {n : Nat}

theorem ordered_remaining (h : (table.map Trace.id).Nodup) :
    Trace.Ordered (l.remaining table cutoff after) :=
  Trace.ordered_inOrder (h.sublist (List.filter_sublist.map Trace.id))

theorem mem_remaining {trace : Trace} :
    trace ∈ l.remaining table cutoff after ↔
      trace ∈ table ∧ l.selects cutoff after trace = true := by
  rw [remaining, (Trace.perm_inOrder _).mem_iff, List.mem_filter]

/-- Behind the traces that were visited nothing has changed. -/
theorem filter_changes (h : l.Changes visited table table')
    (hlast : ∀ trace ∈ visited, trace.position ≤ last.position) :
    table'.filter (l.selects cutoff (some last.cursor)) =
      table.filter (l.selects cutoff (some last.cursor)) := by
  induction h with
  | nil => rfl
  | @cons old new _ _ hone _ ih =>
    -- A trace that was visited is not behind the cursor, whatever became of it.
    have hkeep : new = old ∨ l.selects cutoff (some last.cursor) new = false ∧
        l.selects cutoff (some last.cursor) old = false := by
      refine hone.imp_right fun ⟨hvisited, hleft⟩ => ⟨by simp [selects, hleft], ?_⟩
      have hnot : ¬ last.position < old.position := not_lt.2 (hlast old hvisited)
      simp [selects, hnot]
    rw [List.filter_cons, List.filter_cons, ih]
    rcases hkeep with rfl | ⟨hnew, hold⟩
    · rfl
    · rw [hnew, hold, if_neg Bool.false_ne_true, if_neg Bool.false_ne_true]

/-- Behind a trace of the rest of a listing is what is behind it in that rest. -/
theorem filter_behind (hlast : l.selects cutoff after last = true) :
    table.filter (l.selects cutoff (some last.cursor)) =
      (table.filter (l.selects cutoff after)).filter
        fun trace => decide (last.position < trace.position) := by
  rw [List.filter_filter]
  refine List.filter_congr fun trace _ => ?_
  have hafter : ∀ c ∈ after, c.position < last.position := by
    simp only [selects, Bool.and_eq_true, Option.all_eq_true, decide_eq_true_eq] at hlast
    exact fun c hc => hlast.2 c hc
  have hbehind : last.position < trace.position →
      after.all (fun c => decide (c.position < trace.position)) = true := by
    intro hlt
    simp only [Option.all_eq_true, decide_eq_true_eq]
    exact fun c hc => (hafter c hc).trans hlt
  by_cases hlt : last.position < trace.position
  · simp [selects, hbehind hlt, hlt]
  · simp [selects, hlt]

/-- **The next page continues the listing.** -/
theorem remaining_of_changes (hordered : Trace.Ordered (l.remaining table cutoff after))
    (hlast : ((l.remaining table cutoff after).take n).getLast? = some last)
    (hchanges : l.Changes ((l.remaining table cutoff after).take n) table table') :
    l.remaining table' cutoff (some last.cursor) = (l.remaining table cutoff after).drop n := by
  have htake : Trace.Ordered ((l.remaining table cutoff after).take n) :=
    hordered.sublist (List.take_sublist ..)
  have hselected : l.selects cutoff after last = true :=
    (mem_remaining.1 (List.mem_of_mem_take (List.mem_of_getLast? hlast))).2
  rw [remaining, filter_changes hchanges fun trace htrace => htake.le_last hlast htrace,
    filter_behind hselected]
  refine Trace.Ordered.inOrder_eq (hordered.sublist (List.drop_sublist ..)) ?_
  rw [← hordered.filter_behind hlast]
  exact ((Trace.perm_inOrder _).filter _).symm

/-! ## Whole runs -/

variable {ρ : Type} {c : ConnectionId} {t : Tenant} {size : Int}
  {visit : ρ → List Trace → Attempt ρ} {es : List Event}

/-- The queries for pages have traces, up to the last one. -/
def Exhausts (queries : List PageQuery) : Prop :=
  ∃ visited last, queries = visited ++ [last] ∧ (∀ q ∈ visited, q.rows ≠ []) ∧ last.reply = .ok []

/-- **What is fetched is the listing.** Pages that a truthful database answers to a job that only a
lost connection can stop are the listing, cut into pieces, and an empty one. -/
theorem GoesThrough.exhausts (hsize : 1 ≤ size)
    (hvisit : ∀ report traces, Tenacious (visit report traces)) {pages : Nat} {report : ρ}
    {x : Except Failure ρ} (h : l.GoesThrough c t cutoff size visit pages after report es x)
    (hconnected : Connected es) (htruthful : Truthful table (pageQueries es))
    (hordered : Trace.Ordered (l.remaining table cutoff after))
    (hpages : (l.remaining table cutoff after).length < pages) :
    fetchedTraces es = l.remaining table cutoff after ∧ Exhausts (pageQueries es) := by
  -- The table changes from page to page. What is carried along is that the rest of the listing, which
  -- is all that the next pages depend on, is in order.
  induction h generalizing table with
  | exhausted after report => exact absurd hpages (Nat.not_lt_zero _)
  | unfetched e =>
    rw [pageQueries_cons_event] at htruthful
    cases htruthful with
    | cons hreply => cases hreply
  | ended =>
    rw [pageQueries_cons_event] at htruthful ⊢
    rw [fetchedTraces_cons_event]
    obtain ⟨hpage, -⟩ := htruthful.of_cons
    have hnil : l.remaining table cutoff _ = [] :=
      (List.take_eq_nil_iff.1 hpage.symm).resolve_left (by omega)
    exact ⟨hnil.symm, [], _, rfl, by simp, rfl⟩
  | unvisited hyields =>
    obtain ⟨-, hvisited⟩ := connected_cons.1 hconnected
    exact (not_succeeds_error ((hvisit _ _).ends hyields hvisited)).elim
  | @visited pages after report report' traces last visits rest x hlast hyields hrest ih =>
    have hpageless := (hvisit report traces).pageless hyields
    rw [pageQueries_cons_event, pageQueries_append, pageQueries_of_pageless hpageless,
      List.nil_append] at htruthful ⊢
    rw [fetchedTraces_cons_event, fetchedTraces_append, fetchedTraces_of_pageless hpageless,
      List.nil_append]
    obtain ⟨hpage, table', hchanges, htruthful'⟩ := htruthful.of_cons
    have hremaining : l.remaining table' cutoff (some last.cursor) =
        (l.remaining table cutoff after).drop size.toNat :=
      remaining_of_changes hordered (hpage ▸ hlast) (hpage ▸ hchanges)
    have hne : traces ≠ [] := List.ne_nil_of_mem (List.mem_of_getLast? hlast)
    have hpos : 0 < (l.remaining table cutoff after).length :=
      List.length_pos_iff.2 fun hnil => hne (by rw [hpage, hnil, List.take_nil])
    obtain ⟨hfetched, visited, final, hqueries, hvisited, hfinal⟩ :=
      ih (connected_append.1 (connected_cons.1 hconnected).2).2 htruthful'
        (hremaining ▸ hordered.sublist (List.drop_sublist ..))
        (by rw [hremaining, List.length_drop]; omega)
    refine ⟨?_, ⟨l, cutoff, after, size, .ok traces⟩ :: visited, final, by rw [hqueries]; rfl, ?_,
      hfinal⟩
    · rw [hfetched, hremaining, hpage, List.take_append_drop]
    · exact List.forall_mem_cons.2 ⟨hne, hvisited⟩

/-- A job over a connection that holds exhausts its listing, unless there is no connection. -/
theorem JobYields.exhausts {visit : ConnectionId → ρ → List Trace → Attempt ρ} {pages : Nat}
    {start : ρ} {final : ρ → ρ → Prop} {x : Except Failure ρ} (hsize : 1 ≤ size)
    (hvisit : ∀ c report traces, Tenacious (visit c report traces))
    (h : l.JobYields t size visit pages start final (⟨.now, cutoff⟩ :: es) x)
    (hconnected : Connected es) (htruthful : Truthful table (pageQueries es))
    (hids : (table.map Trace.id).Nodup) (hpages : (l.remaining table cutoff none).length < pages) :
    (∃ e, es = [⟨.checkout, Except.error e⟩]) ∨
      fetchedTraces es = l.remaining table cutoff none ∧ Exhausts (pageQueries es) := by
  cases h with
  | unconnected _ e => exact .inl ⟨e, rfl⟩
  | @connected _ c paging after _ _ hpaging hafter _ =>
    have hpagingConnected := (connected_append.1 (connected_cons.1 hconnected).2).1
    rw [pageQueries_connected c hafter] at htruthful
    rw [fetchedTraces, pageQueries_connected c hafter]
    exact .inr (hpaging.exhausts hsize (hvisit c) hpagingConnected htruthful
      (ordered_remaining hids) hpages)

/-- The transcript is one of the job that goes through the listing. -/
def Goes (l : Listing) (s : Service) (t : Tenant) (es : List Event) : Prop :=
  match l with
  | unlinked => ∃ x, (s.backfill t).Yields es x
  | unanalyzed => ∃ x, (s.sweep t).Yields es x

/-- **Every trace of a listing is fetched once.** Suppose that the traces of a table have different
identifiers, that the database answers truthfully, that no reply says that the connection is lost,
and that the job may go through as many pages as there are traces in its listing, and one more.
Then, if there is a connection, the job fetches exactly the traces that were in the listing when it
began, each of them once, and it stops at the first empty page. -/
theorem fetches_listing_once {l : Listing} {s : Service} {t : Tenant} {cutoff : Instant}
    {es : List Event} {table : List Trace} (hgoes : l.Goes s t (⟨.now, cutoff⟩ :: es))
    (hids : (table.map Trace.id).Nodup) (htruthful : Truthful table (pageQueries es))
    (hconnected : Connected es) (hpages : (l.remaining table cutoff none).length < s.maxPages) :
    (∃ e, es = [⟨.checkout, Except.error e⟩]) ∨
      (∀ trace, (fetchedTraces es).count trace =
        if trace ∈ table ∧ l.selects cutoff none trace = true then 1 else 0) ∧
      ∃ visited last, pageQueries es = visited ++ [last] ∧ (∀ q ∈ visited, q.rows ≠ []) ∧
        last.reply = .ok [] := by
  have hrun : (∃ e, es = [⟨.checkout, Except.error e⟩]) ∨
      fetchedTraces es = l.remaining table cutoff none ∧ Exhausts (pageQueries es) := by
    cases l with
    | unlinked =>
      obtain ⟨x, hy⟩ := hgoes
      exact (s.jobYields_backfill hy).exhausts (le_max_right ..)
        (fun c report traces => s.tenacious_visitUnlinked c report traces) hconnected htruthful hids
        hpages
    | unanalyzed =>
      obtain ⟨x, hy⟩ := hgoes
      exact (s.jobYields_sweep hy).exhausts (le_max_right ..)
        (fun c report traces => s.tenacious_visitUnanalyzed c report traces) hconnected htruthful
        hids hpages
  refine hrun.imp_right fun ⟨hfetched, hend⟩ => ⟨fun trace => ?_, hend⟩
  have hnodup : (l.remaining table cutoff none).Nodup := (ordered_remaining hids).nodup
  rw [hfetched, List.Nodup.count hnodup]
  simp only [mem_remaining]

/-! ### Pages of one trace each -/

/-- A service with a batch size below zero. -/
def timidService : Service :=
  { Service.plain with
    settings := { database := { url := "" }, jobs := { backfillBatchSize := -1 } }
    maxPages := 4 }

/-- Three traces of one time and one from after the beginning of the job. The first one is linked or
not. -/
def timidTable (link : Option Uuid) : List Trace :=
  [.bare (.ofNat 3) ⟨0, 0⟩ "api.local" "GET" "/users" 200,
    .bare (.ofNat 4) ⟨1, 0⟩ "api.local" "GET" "/users" 200,
    { Trace.bare (.ofNat 1) ⟨0, 0⟩ "api.local" "GET" "/users" 200 with endpointId := link },
    .bare (.ofNat 2) ⟨0, 0⟩ "api.local" "GET" "/orders" 200]

/-- The traces of the table up to the beginning of the job, one by one. The database refuses a
statement for the second of them. -/
def timidClerk : PageClerk where
  clerk := { plan := List.replicate 12 none ++ [some (.server none "disk full")] }
  pages :=
    [[.bare (.ofNat 1) ⟨0, 0⟩ "api.local" "GET" "/users" 200],
      [.bare (.ofNat 2) ⟨0, 0⟩ "api.local" "GET" "/orders" 200],
      [.bare (.ofNat 3) ⟨0, 0⟩ "api.local" "GET" "/users" 200]]

/-- What happens in a run of the backfill after it has looked at the clock. -/
def timidTranscript : List Event := (timidClerk.transcript (timidService.backfill .standard)).tail

/-- The query of the run for the traces behind one, and the reply. -/
def timidQuery (after : Option Nat) (rows : List Trace) : PageQuery :=
  ⟨.unlinked, ⟨0, 0⟩, after.map fun n => (⟨0, 0⟩, .ofNat n), 1, .ok rows⟩

theorem truthful_timidTranscript : Truthful (timidTable none) (pageQueries timidTranscript) := by
  have hqueries : pageQueries timidTranscript =
      [timidQuery none [.bare (.ofNat 1) ⟨0, 0⟩ "api.local" "GET" "/users" 200],
        timidQuery (some 1) [.bare (.ofNat 2) ⟨0, 0⟩ "api.local" "GET" "/orders" 200],
        timidQuery (some 2) [.bare (.ofNat 3) ⟨0, 0⟩ "api.local" "GET" "/users" 200],
        timidQuery (some 3) []] := by
    decide +kernel
  have hstay : ∀ visited table, unlinked.Changes visited table table := fun visited table =>
    List.forall₂_same.2 fun _ _ => .inl rfl
  have hleave : unlinked.Changes [.bare (.ofNat 1) ⟨0, 0⟩ "api.local" "GET" "/users" 200]
      (timidTable none) (timidTable (some (.ofNat 0))) :=
    .cons (.inl rfl) (.cons (.inl rfl) (.cons (.inr ⟨List.mem_cons_self, rfl⟩)
      (.cons (.inl rfl) .nil)))
  rw [hqueries]
  exact .cons (by decide +kernel) hleave (.cons (by decide +kernel) (hstay _ _)
    (.cons (by decide +kernel) (hstay _ _) (.cons (by decide +kernel) (hstay _ _) (.nil _))))

/-- The batches have one trace each. The second trace fails and the first one leaves the listing,
but each of the three is fetched once. -/
theorem fetches_listing_once_timid :
    unlinked.Goes timidService .standard (⟨.now, (⟨0, 0⟩ : Instant)⟩ :: timidTranscript) ∧
      ((timidTable none).map Trace.id).Nodup ∧
      Truthful (timidTable none) (pageQueries timidTranscript) ∧ Connected timidTranscript ∧
      (unlinked.remaining (timidTable none) ⟨0, 0⟩ none).length = 3 ∧ 3 < timidService.maxPages ∧
      ∀ trace ∈ timidTable none, (fetchedTraces timidTranscript).count trace =
        if trace.id = .ofNat 4 then 0 else 1 := by
  have hgoes : unlinked.Goes timidService .standard
      (⟨.now, (⟨0, 0⟩ : Instant)⟩ :: timidTranscript) :=
    ⟨_, timidClerk.yields_transcript (timidService.backfill .standard)⟩
  have hids : ((timidTable none).map Trace.id).Nodup := by decide +kernel
  have hconnected : Connected timidTranscript := by decide +kernel
  have hlength : (unlinked.remaining (timidTable none) ⟨0, 0⟩ none).length = 3 := by decide +kernel
  have hpages : 3 < timidService.maxPages := by decide
  have hshort : (unlinked.remaining (timidTable none) ⟨0, 0⟩ none).length < timidService.maxPages :=
    hlength ▸ hpages
  obtain ⟨e, he⟩ | ⟨hcount, -⟩ :=
    fetches_listing_once hgoes hids truthful_timidTranscript hconnected hshort
  · have hlong : timidTranscript.length ≠ 1 := by decide +kernel
    exact absurd (congrArg List.length he) hlong
  have hselects : ∀ trace ∈ timidTable none,
      unlinked.selects ⟨0, 0⟩ none trace = !decide (trace.id = .ofNat 4) := by
    decide +kernel
  refine ⟨hgoes, hids, truthful_timidTranscript, hconnected, hlength, hpages, ?_⟩
  intro trace htrace
  simp [hcount, htrace, hselects trace htrace]

end Listing

end TrafficLens
