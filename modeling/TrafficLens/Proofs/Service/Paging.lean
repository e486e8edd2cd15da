import Mathlib.Data.List.Basic
import TrafficLens.Proofs.Program.Clerk
import TrafficLens.Service.Sweep
import TrafficLens.Service.Backfill

/-!
# Jobs that page through traces

The backfill and the sweep go through a `Listing` of traces, page by page. Both are the same loop
(`Listing.goThrough`) with another visit to a page (`Service.linkPages_eq`, `Service.sweepPages_eq`).
`Listing.GoesThrough` lists all ways in which the loop can go, and `Listing.GoesThrough.keeps` says
what follows for a relation between the result and the traces that were fetched.

Pages are recognized in a transcript by the queries for them (`pageQueries`), so that it can be said
of a whole run what was fetched.
-/

namespace TrafficLens

open Attempt

/-! ## Listings and their pages -/

/-- The traces that a job goes through, those up to a time. -/
inductive Listing where
  /-- The traces without an endpoint. -/
  | unlinked
  /-- The traces that have an endpoint and wait for their analysis. -/
  | unanalyzed
deriving DecidableEq

/-- A query for a page of a listing, and its reply. -/
structure PageQuery where
  listing : Listing
  cutoff : Instant
  after : Option Cursor
  limit : Int
  reply : Except DatabaseError (List Trace)
deriving DecidableEq

/-- The traces of a page. -/
def PageQuery.rows (q : PageQuery) : List Trace :=
  match q.reply with
  | .ok rows => rows
  | .error _ => []

/-- The query for a page that an event is. -/
def Event.page? : Event → Option PageQuery
  | ⟨.command _ _ (.fetchUnlinked cutoff after limit), reply⟩ =>
    some ⟨.unlinked, cutoff, after, limit, reply⟩
  | ⟨.command _ _ (.fetchUnanalyzed cutoff after limit), reply⟩ =>
    some ⟨.unanalyzed, cutoff, after, limit, reply⟩
  | _ => none

/-- The queries for pages in a transcript. -/
def pageQueries (es : List Event) : List PageQuery := es.filterMap Event.page?

/-- The traces that were fetched in a transcript, page after page. -/
def fetchedTraces (es : List Event) : List Trace := (pageQueries es).flatMap PageQuery.rows

/-- The request is no query for a page. -/
def Request.Pageless : Request → Prop
  | command _ _ (.fetchUnlinked ..) | command _ _ (.fetchUnanalyzed ..) => False
  | _ => True

theorem Event.page?_of_pageless {e : Event} (h : e.request.Pageless) : e.page? = none := by
  obtain ⟨r, reply⟩ := e
  cases r with
  | command route t command => cases command <;> first | rfl | exact h.elim
  | _ => rfl

theorem pageQueries_append (es₁ es₂ : List Event) :
    pageQueries (es₁ ++ es₂) = pageQueries es₁ ++ pageQueries es₂ :=
  List.filterMap_append

theorem pageQueries_of_pageless {es : List Event} (h : ∀ e ∈ es, e.request.Pageless) :
    pageQueries es = [] :=
  List.filterMap_eq_nil_iff.2 fun e he => e.page?_of_pageless (h e he)

theorem fetchedTraces_append (es₁ es₂ : List Event) :
    fetchedTraces (es₁ ++ es₂) = fetchedTraces es₁ ++ fetchedTraces es₂ := by
  rw [fetchedTraces, pageQueries_append, List.flatMap_append, fetchedTraces, fetchedTraces]

theorem fetchedTraces_of_pageless {es : List Event} (h : ∀ e ∈ es, e.request.Pageless) :
    fetchedTraces es = [] := by
  rw [fetchedTraces, pageQueries_of_pageless h, List.flatMap_nil]

/-- The place of a trace in the listings. -/
def Trace.cursor (trace : Trace) : Cursor := (trace.createdAt, trace.id)

/-! ## Going through a listing -/

namespace Listing

/-- What a job asks for, and the reply. -/
def event (l : Listing) (c : ConnectionId) (t : Tenant) (cutoff : Instant) (after : Option Cursor)
    (size : Int) (reply : Except DatabaseError (List Trace)) : Event :=
  match l with
  | unlinked => ⟨.command (.held c) t (.fetchUnlinked cutoff after size), reply⟩
  | unanalyzed => ⟨.command (.held c) t (.fetchUnanalyzed cutoff after size), reply⟩

/-- Fetch a page. -/
def fetch (l : Listing) (c : ConnectionId) (t : Tenant) (cutoff : Instant) (after : Option Cursor)
    (size : Int) : Attempt (List Trace) :=
  match l with
  | unlinked => send (.held c) t (.fetchUnlinked cutoff after size)
  | unanalyzed => send (.held c) t (.fetchUnanalyzed cutoff after size)

variable {ρ : Type} (l : Listing) (c : ConnectionId) (t : Tenant) (cutoff : Instant) (size : Int)
  (visit : ρ → List Trace → Attempt ρ)

/-- Visit page after page, at most so many, up to the first empty one. -/
def goThrough : (pages : Nat) → Option Cursor → ρ → Attempt ρ
  | 0, _, _ => throw .tooManyPages
  | pages + 1, after, report => do
    let traces ← l.fetch c t cutoff after size
    match traces.getLast? with
    | none => pure report
    | some last =>
      let report ← visit report traces
      goThrough pages (some last.cursor) report

/-- The ways of going through a listing. -/
inductive GoesThrough : (pages : Nat) → Option Cursor → ρ → List Event → Except Failure ρ → Prop
  | exhausted (after : Option Cursor) (report : ρ) :
    GoesThrough 0 after report [] (.error .tooManyPages)
  | unfetched {pages : Nat} {after : Option Cursor} {report : ρ} (e : DatabaseError) :
    GoesThrough (pages + 1) after report [l.event c t cutoff after size (.error e)]
      (.error (.database e))
  | ended {pages : Nat} {after : Option Cursor} {report : ρ} :
    GoesThrough (pages + 1) after report [l.event c t cutoff after size (.ok [])] (.ok report)
  | unvisited {pages : Nat} {after : Option Cursor} {report : ρ} {traces : List Trace}
    {es : List Event} {f : Failure} (hvisit : (visit report traces).Yields es (.error f)) :
    GoesThrough (pages + 1) after report (l.event c t cutoff after size (.ok traces) :: es)
      (.error f)
  | visited {pages : Nat} {after : Option Cursor} {report report' : ρ} {traces : List Trace}
    {last : Trace} {es rest : List Event} {x : Except Failure ρ}
    (hlast : traces.getLast? = some last) (hvisit : (visit report traces).Yields es (.ok report'))
    (hrest : GoesThrough pages (some last.cursor) report' rest x) :
    GoesThrough (pages + 1) after report
      (l.event c t cutoff after size (.ok traces) :: (es ++ rest)) x

variable {l c t cutoff size visit}

theorem page?_event {after : Option Cursor} {reply : Except DatabaseError (List Trace)} :
    (l.event c t cutoff after size reply).page? = some ⟨l, cutoff, after, size, reply⟩ := by
  cases l <;> rfl

@[simp] theorem pageQueries_cons_event {after : Option Cursor}
    {reply : Except DatabaseError (List Trace)} {es : List Event} :
    pageQueries (l.event c t cutoff after size reply :: es) =
      ⟨l, cutoff, after, size, reply⟩ :: pageQueries es :=
  List.filterMap_cons_some page?_event

theorem fetchedTraces_cons_event {after : Option Cursor} {traces : List Trace} {es : List Event} :
    fetchedTraces (l.event c t cutoff after size (.ok traces) :: es) =
      traces ++ fetchedTraces es := by
  rw [fetchedTraces, pageQueries_cons_event]
  rfl

theorem yields_fetch_bind {after : Option Cursor} {α : Type} {next : List Trace → Attempt α}
    {es : List Event} {x : Except Failure α} :
    (l.fetch c t cutoff after size >>= next).Yields es x ↔
      (∃ e, es = [l.event c t cutoff after size (.error e)] ∧ x = .error (.database e)) ∨
        ∃ traces rest, es = l.event c t cutoff after size (.ok traces) :: rest ∧
          (next traces).Yields rest x := by
  cases l <;> exact yields_send_bind

theorem goesThrough {pages : Nat} {after : Option Cursor} {report : ρ} {es : List Event}
    {x : Except Failure ρ}
    (hy : (l.goThrough c t cutoff size visit pages after report).Yields es x) :
    l.GoesThrough c t cutoff size visit pages after report es x := by
  induction pages generalizing after report es with
  | zero =>
    obtain ⟨rfl, rfl⟩ := hy
    exact .exhausted after report
  | succ pages ih =>
    obtain ⟨e, rfl, rfl⟩ | ⟨traces, rest, rfl, hrest⟩ := yields_fetch_bind.1 hy
    · exact .unfetched e
    cases hlast : traces.getLast? with
    | none =>
      rw [hlast] at hrest
      obtain ⟨rfl, rfl⟩ := yields_pure.1 hrest
      obtain rfl := List.getLast?_eq_none_iff.1 hlast
      exact .ended
    | some last =>
      rw [hlast] at hrest
      obtain ⟨f, rfl, hvisit⟩ | ⟨visits, rest, report', rfl, hvisit, hrest⟩ := yields_bind.1 hrest
      · exact .unvisited hvisit
      · exact .visited hlast hvisit (ih hrest)

/-- If a visit carries a relation between the result and the traces that were fetched from one page
to the next then the result has it at the end. -/
theorem GoesThrough.keeps {I : ρ → List Trace → Prop}
    (hpageless : ∀ report traces, Asks Request.Pageless (visit report traces))
    (hvisit : ∀ report seen traces, I report seen →
      Delivers (fun report' => I report' (seen ++ traces)) (visit report traces))
    {pages : Nat} {after : Option Cursor} {report report' : ρ} {es : List Event}
    {x : Except Failure ρ} (h : l.GoesThrough c t cutoff size visit pages after report es x)
    (hx : x = .ok report') {seen : List Trace} (hI : I report seen) :
    I report' (seen ++ fetchedTraces es) := by
  -- The traces that were seen grow with every page, and the way ends with the report.
  induction h generalizing seen with
  | exhausted | unfetched | unvisited => cases hx
  | ended =>
    obtain rfl := Except.ok.inj hx
    rw [fetchedTraces_cons_event]
    exact (List.append_nil seen).symm ▸ hI
  | visited _ hyields _ ih =>
    rw [fetchedTraces_cons_event, fetchedTraces_append,
      fetchedTraces_of_pageless (hpageless _ _ hyields), List.nil_append, ← List.append_assoc]
    exact ih hx (hvisit _ _ _ hI hyields)

/-! ### Jobs -/

variable (l t size) in
/-- The ways of a job that goes through a listing over a connection, and then does something else
that makes the report final. -/
inductive JobYields (visit : ConnectionId → ρ → List Trace → Attempt ρ) (pages : Nat) (start : ρ)
    (final : ρ → ρ → Prop) : List Event → Except Failure ρ → Prop
  | unconnected (cutoff : Instant) (e : DatabaseError) :
    JobYields visit pages start final [⟨.now, cutoff⟩, ⟨.checkout, Except.error e⟩]
      (.error (.database e))
  | connected (cutoff : Instant) (c : ConnectionId) {paging after : List Event}
    {x y : Except Failure ρ}
    (hpaging : l.GoesThrough c t cutoff size (visit c) pages none start paging x)
    (hafter : ∀ e ∈ after, e.request.Pageless)
    (hfinal : ∀ report', y = .ok report' → ∃ report, x = .ok report ∧ final report report') :
    JobYields visit pages start final
      (⟨.now, cutoff⟩ :: ⟨.checkout, Except.ok c⟩ :: (paging ++ after)) y

/-- What comes before and after the pages has no part in what is fetched. -/
theorem pageQueries_connected (c : ConnectionId) {paging after : List Event}
    (hafter : ∀ e ∈ after, e.request.Pageless) :
    pageQueries (⟨.checkout, Except.ok c⟩ :: (paging ++ after)) = pageQueries paging := by
  have hstart : pageQueries (⟨.checkout, Except.ok c⟩ :: (paging ++ after)) =
      pageQueries (paging ++ after) := rfl
  rw [hstart, pageQueries_append, pageQueries_of_pageless hafter, List.append_nil]

/-- If visits carry a relation between the result and the traces that were fetched, and what makes
the report final does, then the report of a job has it. -/
theorem JobYields.keeps {visit : ConnectionId → ρ → List Trace → Attempt ρ} {pages : Nat}
    {start : ρ} {final : ρ → ρ → Prop} {es : List Event} {report : ρ}
    (h : l.JobYields t size visit pages start final es (.ok report)) {I : ρ → List Trace → Prop}
    (hpageless : ∀ c report traces, Asks Request.Pageless (visit c report traces))
    (hvisit : ∀ c report seen traces, I report seen →
      Delivers (fun report' => I report' (seen ++ traces)) (visit c report traces))
    (hfinal : ∀ report report' seen, final report report' → I report seen → I report' seen)
    (hstart : I start []) : I report (fetchedTraces es) := by
  cases h with
  | @connected cutoff c paging after _ _ hpaging hafter hreport =>
    obtain ⟨report₁, hx, hreport⟩ := hreport report rfl
    have hfetched :
        fetchedTraces (⟨.now, cutoff⟩ :: ⟨.checkout, Except.ok c⟩ :: (paging ++ after)) =
          fetchedTraces paging :=
      congrArg (List.flatMap PageQuery.rows) (pageQueries_connected c hafter)
    rw [hfetched]
    exact hfinal _ _ _ hreport (hpaging.keeps (hpageless c) (hvisit c) hx hstart)

end Listing

/-! ## The two jobs -/

namespace Service

variable (s : Service) (c : ConnectionId) (t : Tenant) (cutoff : Instant)

/-- What the backfill does with a page. -/
def visitUnlinked (report : BackfillReport) (traces : List Trace) : Attempt BackfillReport :=
  s.linkPage c t { report with scanned := report.scanned + traces.length } traces

/-- What the sweep does with a page. -/
def visitUnanalyzed (report : SweepReport) (traces : List Trace) : Attempt SweepReport :=
  s.sweepPage c t { report with scanned := report.scanned + traces.length } traces

theorem linkPages_eq (pages : Nat) (after : Option Cursor) (report : BackfillReport) :
    s.linkPages c t cutoff pages after report =
      Listing.unlinked.goThrough c t cutoff (max s.settings.jobs.backfillBatchSize 1)
        (s.visitUnlinked c t) pages after report := by
  induction pages generalizing after report with
  | zero => rfl
  | succ pages ih =>
    rw [linkPages, Listing.goThrough]
    refine bind_congr fun (traces : List Trace) => ?_
    cases traces.getLast? with
    | none => rfl
    | some last => exact bind_congr fun report => ih _ report

theorem sweepPages_eq (pages : Nat) (after : Option Cursor) (report : SweepReport) :
    s.sweepPages c t cutoff pages after report =
      Listing.unanalyzed.goThrough c t cutoff (max s.settings.jobs.sweepBatchSize 1)
        (s.visitUnanalyzed c t) pages after report := by
  induction pages generalizing after report with
  | zero => rfl
  | succ pages ih =>
    rw [sweepPages, Listing.goThrough]
    refine bind_congr fun (traces : List Trace) => ?_
    cases traces.getLast? with
    | none => rfl
    | some last => exact bind_congr fun report => ih _ report

end Service

/-! ## A clerk with pages -/

/-- A clerk who also has pages of traces to give out, one for each query, and then empty ones. -/
structure PageClerk where
  clerk : Clerk := {}
  pages : List (List Trace)

namespace PageClerk

/-- Reply to a request. -/
def reply : (r : Request) → PageClerk → r.Reply × PageClerk
  | .command _ _ (.fetchUnlinked ..), k | .command _ _ (.fetchUnanalyzed ..), k =>
    ((.ok (k.pages.headD []) : Except DatabaseError (List Trace)), { k with pages := k.pages.tail })
  | r, k => ((k.clerk.reply r).1, { k with clerk := (k.clerk.reply r).2 })

/-- The outcome of an attempt. -/
def attend {α : Type} (a : Attempt α) (k : PageClerk) : Except Failure α :=
  (Program.run reply a.run k).1

/-- The transcript of the attempt. -/
def transcript {α : Type} (a : Attempt α) (k : PageClerk) : List Event :=
  Program.transcript reply a.run k

theorem yields_transcript {α : Type} (a : Attempt α) (k : PageClerk) :
    a.Yields (k.transcript a) (k.attend a) :=
  Program.yields_transcript reply a.run k

end PageClerk

end TrafficLens
