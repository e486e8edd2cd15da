import TrafficLens.Proofs.Service.Endurance
import TrafficLens.Proofs.Service.Grouping

/-!
# What becomes of the traces that a job has fetched

The reports of the jobs account for every trace that was fetched
(`Service.reports_account_for_traces`). The backfill has traces in hand while it goes through a page:
first the traces of the page that are not sorted yet and those in the groups of the sorted page,
then the groups that are not linked yet. Every step moves traces between what is in hand and what
the report says was linked, skipped or failed, and none is lost (`BackfillReport.Balances`). The
sweep settles each trace with an endpoint by itself.
-/

namespace TrafficLens

open Attempt

/-! ## Traces in hand -/

/-- The number of traces in groups that go to stored endpoints. -/
def matchedSize (groups : List (Uuid × TraceGroup)) : Nat :=
  (groups.flatMap fun g => g.2.traceIds).length

/-- The number of traces that go with templates. -/
def pendingSize (ps : List PendingEndpoint) : Nat :=
  (ps.flatMap fun p => p.group.traceIds).length

/-- The number of traces in the groups of a page. -/
def SortedPage.size (page : SortedPage) : Nat := matchedSize page.matched + pendingSize page.pending

/-- One more trace in a group is one more trace. -/
theorem matchedSize_alter (id : Uuid) (trace : Trace) (groups : List (Uuid × TraceGroup)) :
    matchedSize (Dict.alter id (TraceGroup.join trace) groups) = matchedSize groups + 1 := by
  have hlinks : ∀ groups, matchedSize groups = (matchedLinks groups).length := fun groups => by
    rw [matchedSize, ← map_fst_matchedLinks, List.length_map]
  rw [hlinks, hlinks, (perm_matchedLinks_alter id trace groups).length_eq, List.length_append,
    List.length_singleton]

theorem matchedSize_cons (g : Uuid × TraceGroup) (groups : List (Uuid × TraceGroup)) :
    matchedSize (g :: groups) = g.2.traceIds.length + matchedSize groups := by
  rw [matchedSize, List.flatMap_cons, List.length_append, matchedSize]

theorem pendingSize_cons (p : PendingEndpoint) (ps : List PendingEndpoint) :
    pendingSize (p :: ps) = p.group.traceIds.length + pendingSize ps := by
  rw [pendingSize, List.flatMap_cons, List.length_append, pendingSize]

theorem pendingSize_addTo? {trace : Trace} {path : String} {ps ps' : List PendingEndpoint}
    (h : PendingEndpoint.addTo? trace path ps = some ps') :
    pendingSize ps' = pendingSize ps + 1 := by
  have hperm := PendingEndpoint.perm_traceIds_addTo? h
  rw [pendingSize, hperm.length_eq, List.length_append, List.length_singleton, pendingSize]

theorem pendingSize_concat (ps : List PendingEndpoint) (p : PendingEndpoint) :
    pendingSize (ps ++ [p]) = pendingSize ps + p.group.traceIds.length := by
  simp [pendingSize]

/-! ## The backfill -/

namespace BackfillReport

/-- The number of traces of which a report says what became of them. -/
def settled (r : BackfillReport) : Nat := r.linked + r.skipped + r.failed

/-- From one report with so many traces in hand to another one, no trace is lost. -/
structure Balances (r : BackfillReport) (inHand : Nat) (r' : BackfillReport) (left : Nat) :
    Prop where
  scanned : r'.scanned = r.scanned
  settled : r'.settled + left = r.settled + inHand

variable {r r' r'' : BackfillReport} {k m n : Nat}

theorem Balances.refl (r : BackfillReport) (n : Nat) : r.Balances n r n := ⟨rfl, rfl⟩

theorem Balances.trans (h : r.Balances k r' m) (h' : r'.Balances m r'' n) : r.Balances k r'' n :=
  ⟨h'.scanned.trans h.scanned, h'.settled.trans h.settled⟩

/-- More traces may be in hand that are left alone. -/
theorem Balances.add (h : r.Balances m r' n) (k : Nat) : r.Balances (m + k) r' (n + k) :=
  ⟨h.scanned, by have := h.settled; omega⟩

theorem balances_countSkipped (r : BackfillReport) (n : Nat) : r.Balances n (r.countSkipped n) 0 :=
  ⟨rfl, by simp only [BackfillReport.settled, countSkipped]; omega⟩

theorem delivers_countFailure (r : BackfillReport) (n : Nat) (f : Failure) :
    Delivers (r.Balances n · 0) (r.countFailure n f) := by
  unfold countFailure
  split
  · exact delivers_throw f
  · exact delivers_pure ⟨rfl, by simp only [BackfillReport.settled]; omega⟩

end BackfillReport

open BackfillReport

namespace Service

variable (s : Service) (c : ConnectionId) (t : Tenant)

theorem delivers_countLinked (r : BackfillReport) (n : Nat) (x : Except Failure Unit) :
    Delivers (r.Balances n · 0) (countLinked r n x) := by
  cases x with
  | ok _ => exact delivers_pure ⟨rfl, by simp only [BackfillReport.settled]; omega⟩
  | error f => exact delivers_countFailure r n f

theorem balances_sortPending (trace : Trace) (path : String) (page : SortedPage)
    (r : BackfillReport) :
    r.Balances (page.size + 1) (s.sortPending trace path page r).2
      (s.sortPending trace path page r).1.size := by
  have hskip := (r.balances_countSkipped 1).add page.size
  rw [Nat.zero_add, Nat.add_comm] at hskip
  unfold sortPending
  split
  · exact hskip
  split
  · next pending hadd =>
    have hsize := pendingSize_addTo? hadd
    exact ⟨rfl, by simp only [SortedPage.size]; omega⟩
  · split
    · exact hskip
    · refine ⟨rfl, ?_⟩
      simp only [SortedPage.size, pendingSize_concat, TraceGroup.single, List.length_singleton]
      omega

/-- A trace is kept in a group, or the report says what became of it. -/
theorem delivers_sortTrace (trace : Trace) (page : SortedPage) (r : BackfillReport) :
    Delivers (fun sorted => r.Balances (page.size + 1) sorted.2 sorted.1.size)
      (s.sortTrace t trace page r) := by
  -- A trace that does not get into a group leaves those of the page in hand.
  have hsettled : ∀ {r'}, r.Balances 1 r' 0 → r.Balances (page.size + 1) r' page.size := by
    intro r' h
    have hpage := h.add page.size
    rwa [Nat.zero_add, Nat.add_comm] at hpage
  unfold sortTrace
  dsimp only
  split
  · exact delivers_pure (hsettled (r.balances_countSkipped 1))
  · refine delivers_bind fun x => ?_
    rcases x with f | _ | endpoint
    · exact (r.delivers_countFailure 1 f).bind fun r' h => delivers_pure (hsettled h)
    · exact delivers_pure (s.balances_sortPending _ _ page r)
    · have hsize : ∀ trace : Trace, SortedPage.size { page with
          matched := Dict.alter endpoint.id (TraceGroup.join trace) page.matched } =
            page.size + 1 := fun trace => by
        simp only [SortedPage.size, matchedSize_alter]
        omega
      exact delivers_pure ⟨rfl, congrArg (r.settled + ·) (hsize _)⟩

theorem delivers_sort (traces : List Trace) (page : SortedPage) (r : BackfillReport) :
    Delivers (fun sorted => r.Balances (page.size + traces.length) sorted.2 sorted.1.size)
      (s.sort t page r traces) := by
  induction traces generalizing page r with
  | nil => exact delivers_pure (.refl r page.size)
  | cons trace rest ih =>
    refine (s.delivers_sortTrace t trace page r).bind ?_
    rintro ⟨page', r'⟩ hone
    rw [List.length_cons, Nat.add_comm rest.length, ← Nat.add_assoc]
    exact fun _ _ hy => (hone.add rest.length).trans (ih page' r' hy)

theorem delivers_linkMatched (groups : List (Uuid × TraceGroup)) (r : BackfillReport) :
    Delivers (r.Balances (matchedSize groups) · 0) (s.linkMatched c t r groups) := by
  induction groups generalizing r with
  | nil => exact delivers_pure (.refl r 0)
  | cons g rest ih =>
    refine delivers_bind fun x => (delivers_countLinked r _ x).bind fun r' hgroup => ?_
    have hrest := hgroup.add (matchedSize rest)
    rw [Nat.zero_add] at hrest
    rw [matchedSize_cons]
    exact fun _ _ hy => hrest.trans (ih r' hy)

/-- A group that goes with a template is linked, skipped or failed as a whole. -/
theorem delivers_linkNew (r : BackfillReport) (p : PendingEndpoint) :
    Delivers (r.Balances p.group.traceIds.length · 0) (s.linkNew c t r p) := by
  refine delivers_bind fun x => ?_
  rcases x with f | _ | ⟨endpoint, isNew⟩
  · exact delivers_countFailure r _ f
  · exact delivers_pure (r.balances_countSkipped _)
  · refine delivers_bind fun ids => delivers_bind fun x => ?_
    have hcreated : ∀ n,
        r.Balances n (if isNew then { r with created := r.created + 1 } else r) n := fun n => by
      cases isNew <;> exact ⟨rfl, rfl⟩
    exact fun _ _ hy => (hcreated _).trans (delivers_countLinked _ _ x hy)

theorem delivers_linkPending (ps : List PendingEndpoint) (r : BackfillReport) :
    Delivers (r.Balances (pendingSize ps) · 0) (s.linkPending c t r ps) := by
  induction ps generalizing r with
  | nil => exact delivers_pure (.refl r 0)
  | cons p rest ih =>
    refine (s.delivers_linkNew c t r p).bind fun r' hgroup => ?_
    have hrest := hgroup.add (pendingSize rest)
    rw [Nat.zero_add] at hrest
    rw [pendingSize_cons]
    exact fun _ _ hy => hrest.trans (ih r' hy)

/-- No trace of a page is lost. -/
theorem delivers_linkPage (r : BackfillReport) (traces : List Trace) :
    Delivers (r.Balances traces.length · 0) (s.linkPage c t r traces) := by
  refine (s.delivers_sort t traces {} r).bind ?_
  rintro ⟨page, r₁⟩ hsort
  refine (s.delivers_linkMatched c t page.matched r₁).bind fun r₂ hmatched => ?_
  intro _ r₃ hy
  have hempty : SortedPage.size {} + traces.length = traces.length := Nat.zero_add _
  have hmatched := hmatched.add (pendingSize page.pending)
  rw [Nat.zero_add] at hmatched
  rw [hempty] at hsort
  exact hsort.trans (hmatched.trans (s.delivers_linkPending c t page.pending r₂ hy))

end Service

/-! ## The sweep -/

/-- The number of traces of which a report says what became of them. -/
def SweepReport.settled (r : SweepReport) : Nat := r.analyzed + r.failed

/-- A later report settles so many more traces. -/
structure SweepReport.Settles (r : SweepReport) (n : Nat) (r' : SweepReport) : Prop where
  scanned : r'.scanned = r.scanned
  settled : r'.settled = r.settled + n

namespace Service

variable (s : Service) (c : ConnectionId) (t : Tenant)

theorem delivers_sweepLinked (r : SweepReport) (trace : Trace) (endpointId : Uuid) :
    Delivers (r.Settles 1) (s.sweepLinked c t r trace endpointId) := by
  have hfailed : Delivers (r.Settles 1) (pure { r with failed := r.failed + 1 }) :=
    delivers_pure ⟨rfl, rfl⟩
  refine delivers_bind fun x => ?_
  rcases x with f | _ | endpoint
  · exact hfailed
  · exact hfailed
  · refine delivers_bind fun x => ?_
    cases x with
    | ok analysis => exact delivers_pure ⟨rfl, by simp only [SweepReport.settled]; omega⟩
    | error f =>
      dsimp only
      split
      · exact delivers_throw f
      · exact hfailed

theorem delivers_sweepPage (traces : List Trace) (r : SweepReport) :
    Delivers (r.Settles (traces.countP fun trace => trace.endpointId.isSome))
      (s.sweepPage c t r traces) := by
  induction traces generalizing r with
  | nil => exact delivers_pure ⟨rfl, rfl⟩
  | cons trace rest ih =>
    rw [sweepPage]
    split
    · next hnone =>
      rw [List.countP_cons_of_neg (by simp [hnone])]
      exact ih r
    · next hsome =>
      rw [List.countP_cons_of_pos (by simp [hsome])]
      refine (s.delivers_sweepLinked c t r trace _).bind fun r' hone => ?_
      intro _ r'' hy
      have hrest := ih r' hy
      exact ⟨hrest.scanned.trans hone.scanned, by rw [hrest.settled, hone.settled]; omega⟩

/-! ## Whole runs -/

variable {s t}

/-- The report of a backfill says what became of every trace that was fetched. -/
theorem settled_of_backfill {es : List Event} {report : BackfillReport}
    (hy : (s.backfill t).Yields es (.ok report)) :
    report.scanned = (fetchedTraces es).length ∧ report.settled = (fetchedTraces es).length := by
  refine (s.jobYields_backfill hy).keeps
    (I := fun r seen => r.scanned = seen.length ∧ r.settled = seen.length)
    (fun c r traces => (s.tenacious_visitUnlinked c r traces).pageless) ?_ ?_ ⟨rfl, rfl⟩
  · rintro c r seen traces ⟨hscanned, hsettled⟩ _ r' hy
    have hpage := s.delivers_linkPage c t { r with scanned := r.scanned + traces.length } traces hy
    have hscanned' : r'.scanned = r.scanned + traces.length := hpage.scanned
    have hsettled' : r'.settled = r.settled + traces.length := hpage.settled
    rw [List.length_append, hscanned', hsettled', hscanned, hsettled]
    exact ⟨rfl, rfl⟩
  · rintro r _ seen ⟨n, rfl⟩ h
    exact h

/-- The report of a sweep says what became of every trace that was fetched and has an endpoint. -/
theorem settled_of_sweep {es : List Event} {report : SweepReport}
    (hy : (s.sweep t).Yields es (.ok report)) :
    report.scanned = (fetchedTraces es).length ∧
      report.settled = (fetchedTraces es).countP fun trace => trace.endpointId.isSome := by
  refine (s.jobYields_sweep hy).keeps
    (I := fun r seen => r.scanned = seen.length ∧
      r.settled = seen.countP fun trace => trace.endpointId.isSome)
    (fun c r traces => (s.tenacious_visitUnanalyzed c r traces).pageless) ?_ ?_ ⟨rfl, rfl⟩
  · rintro c r seen traces ⟨hscanned, hsettled⟩ _ r' hy
    have hpage := s.delivers_sweepPage c t traces { r with scanned := r.scanned + traces.length } hy
    have hscanned' : r'.scanned = r.scanned + traces.length := hpage.scanned
    have hsettled' : r'.settled = r.settled + traces.countP fun trace => trace.endpointId.isSome :=
      hpage.settled
    rw [List.length_append, List.countP_append, hscanned', hsettled', hscanned, hsettled]
    exact ⟨rfl, rfl⟩
  · rintro r _ seen rfl h
    exact h

/-- **No trace drops out of the reports.** Whatever is in the database and whatever fails: if a
backfill ends with a report then every trace that it fetched was linked, skipped or failed, and if
a sweep does, and all traces that it fetched have endpoints, then every one of them was analyzed or
failed. -/
theorem reports_account_for_traces (s : Service) (t : Tenant) :
    (∀ es report, (s.backfill t).Yields es (.ok report) →
      report.scanned = (fetchedTraces es).length ∧
        report.scanned = report.linked + report.skipped + report.failed) ∧
    ∀ es report, (s.sweep t).Yields es (.ok report) →
      report.scanned = (fetchedTraces es).length ∧
        ((∀ trace ∈ fetchedTraces es, trace.endpointId ≠ none) →
          report.scanned = report.analyzed + report.failed) := by
  constructor
  · intro es report hy
    obtain ⟨hscanned, hsettled⟩ := settled_of_backfill hy
    exact ⟨hscanned, hscanned.trans hsettled.symm⟩
  · intro es report hy
    obtain ⟨hscanned, hsettled⟩ := settled_of_sweep hy
    refine ⟨hscanned, fun hlinked => hscanned.trans ?_⟩
    have hall : (fetchedTraces es).countP (fun trace => trace.endpointId.isSome) =
        (fetchedTraces es).length :=
      List.countP_eq_length.2 fun trace h => Option.isSome_iff_ne_none.2 (hlinked trace h)
    exact (hsettled.trans hall).symm

/-- A service whose jobs go through three pages at most. -/
def threePages : Service := { plain with maxPages := 3 }

/-- Two pages of traces. One of them has no path, and for the last one the database refuses a
statement. -/
def mixedClerk : PageClerk where
  clerk := { plan := List.replicate 13 none ++ [some (.server none "disk full")] }
  pages :=
    [[.bare (.ofNat 1) ⟨0, 0⟩ "api.local" "GET" "/users" 200,
        .bare (.ofNat 2) ⟨0, 0⟩ "api.local" "GET" "" 200,
        .bare (.ofNat 3) ⟨0, 0⟩ "api.local" "GET" "/users" 200],
      [.bare (.ofNat 4) ⟨1, 0⟩ "api.local" "GET" "/orders" 200]]

/-- A page of two traces of an endpoint and of one whose endpoint is gone. -/
def linkedClerk : PageClerk :=
  let endpoint : Endpoint :=
    .ofTemplate (.ofNat 7) "api.local" "GET" ⟨"/users", "^/users(/)*$", 0, false⟩
  let trace : Trace := .bare (.ofNat 1) ⟨0, 0⟩ "api.local" "GET" "/users" 200
  { clerk := { store := [endpoint] }
    pages :=
      [[{ trace with endpointId := some endpoint.id },
          { trace with id := .ofNat 2, endpointId := some (.ofNat 9) },
          { trace with id := .ofNat 3, endpointId := some endpoint.id }]] }

theorem reports_account_for_traces_mixed :
    mixedClerk.attend (threePages.backfill .standard) = .ok ⟨4, 2, 1, 1, 2, 0⟩ ∧ 4 = 2 + 1 + 1 ∧
      linkedClerk.attend (threePages.sweep .standard) = .ok ⟨3, 2, 1, 2⟩ ∧
        (∀ trace ∈ fetchedTraces (linkedClerk.transcript (threePages.sweep .standard)),
          trace.endpointId ≠ none) ∧ 3 = 2 + 1 := by
  have hbackfill : mixedClerk.attend (threePages.backfill .standard) = .ok ⟨4, 2, 1, 1, 2, 0⟩ := by
    decide +kernel
  have hsweep : linkedClerk.attend (threePages.sweep .standard) = .ok ⟨3, 2, 1, 2⟩ := by
    decide +kernel
  have hlinked : ∀ trace ∈ fetchedTraces (linkedClerk.transcript (threePages.sweep .standard)),
      trace.endpointId ≠ none := by
    decide +kernel
  obtain ⟨haccount, haccount'⟩ := reports_account_for_traces threePages .standard
  exact ⟨hbackfill, (haccount _ _ (hbackfill ▸ mixedClerk.yields_transcript _)).2, hsweep, hlinked,
    (haccount' _ _ (hsweep ▸ linkedClerk.yields_transcript _)).2 hlinked⟩

end Service

end TrafficLens
