import Mathlib.Data.List.Pairwise
import TrafficLens.Proofs.Service.GroupLinks

/-!
# What is sent for a page

When a page is linked its traces are judged first, and then its groups are linked, one after another
(`Service.GoesThrough`). The groups that are linked are those that the page has collected, or the
first of them if the connection is lost. So what holds for one group and what holds for the groups
of a sorted page together say what is sent for the page (`LinkedOnce`): every trace is linked for
one group at most, to the endpoint of the group, whose dates are widened to the span of just these
traces. If nothing ends the linking early and all levels can be opened, the traces that are linked
are those that were neither skipped nor failed before (`Service.linkPage_links_once`).
-/

namespace TrafficLens

open Attempt

namespace Service

/-- Groups are linked, one after another, until the connection is lost. -/
structure LinksAll (s : Service) (c : ConnectionId) (t : Tenant) (groups : List PageGroup)
    (es : List Event) (x : Except Failure BackfillReport) (runs : List GroupRun) : Prop where
  events : es = runs.flatMap GroupRun.events
  links : ∀ r ∈ runs, s.Links c t r
  begun : runs.map GroupRun.group <+: groups
  all : ∀ report, x = .ok report → runs.map GroupRun.group = groups

variable {s : Service} {c : ConnectionId} {t : Tenant} {es es' : List Event}
  {x : Except Failure BackfillReport} {report : BackfillReport} {g : PageGroup}
  {groups : List PageGroup} {runs : List GroupRun}

theorem LinksAll.nil (x : Except Failure BackfillReport) : s.LinksAll c t [] [] x [] :=
  ⟨rfl, by simp, List.nil_prefix, fun _ _ => rfl⟩

theorem LinksAll.cons {id : Option Uuid} (hone : s.Links c t ⟨g, id, es⟩)
    (h : s.LinksAll c t groups es' x runs) :
    s.LinksAll c t (g :: groups) (es ++ es') x (⟨g, id, es⟩ :: runs) where
  events := by rw [h.events, List.flatMap_cons]
  links := List.forall_mem_cons.2 ⟨hone, h.links⟩
  begun := (List.prefix_cons_inj g).2 h.begun
  all report hx := by rw [List.map_cons, h.all report hx]

theorem LinksAll.stop {id : Option Uuid} {f : Failure} (hone : s.Links c t ⟨g, id, es⟩) :
    s.LinksAll c t (g :: groups) es (.error f) [⟨g, id, es⟩] where
  events := by simp
  links := by simpa using hone
  begun := List.prefix_append [g] groups
  all report hx := by cases hx

theorem LinksAll.append {groups' : List PageGroup} {runs' : List GroupRun}
    (h : s.LinksAll c t groups es (.ok report) runs)
    (h' : s.LinksAll c t groups' es' x runs') :
    s.LinksAll c t (groups ++ groups') (es ++ es') x (runs ++ runs') where
  events := by rw [h.events, h'.events, List.flatMap_append]
  links r hr := (List.mem_append.1 hr).elim (h.links r) (h'.links r)
  begun := by
    rw [List.map_append, h.all report rfl]
    exact (List.prefix_append_right_inj groups).2 h'.begun
  all report' hx := by rw [List.map_append, h.all report rfl, h'.all report' hx]

/-- Groups that come after a failure are not linked. -/
theorem LinksAll.fail {f : Failure} (h : s.LinksAll c t groups es (.error f) runs)
    (groups' : List PageGroup) : s.LinksAll c t (groups ++ groups') es (.error f) runs where
  events := h.events
  links := h.links
  begun := h.begun.trans (List.prefix_append ..)
  all report hx := by cases hx

theorem linksAll_linkMatched {matched : List (Uuid × TraceGroup)}
    (hy : (s.linkMatched c t report matched).Yields es x) :
    ∃ runs, s.LinksAll c t (matched.map fun g => .matched g.1 g.2) es x runs := by
  induction matched generalizing report es with
  | nil =>
    obtain ⟨rfl, rfl⟩ := yields_pure.1 hy
    exact ⟨[], .nil _⟩
  | cons g rest ih =>
    obtain ⟨es₁, es₂, y, rfl, hlink, hrest⟩ := yields_outcome_bind.1 hy
    have hnil : ∀ {es z}, (countLinked report g.2.traceIds.length y).Yields es z → es = [] :=
      fun hcount => eq_nil_of_asks (asks_countLinked report _ y) hcount
    obtain ⟨f, rfl, hcount⟩ | ⟨es₃, es₄, report', rfl, hcount, hrest⟩ := yields_bind.1 hrest
    · rw [hnil hcount, List.append_nil]
      exact ⟨_, .stop (.matched hlink)⟩
    · rw [hnil hcount, List.nil_append]
      obtain ⟨runs, hruns⟩ := ih hrest
      exact ⟨_, .cons (.matched hlink) hruns⟩

theorem links_linkNew {p : PendingEndpoint} (hy : (s.linkNew c t report p).Yields es x) :
    ∃ id, s.Links c t ⟨.pending p, id, es⟩ := by
  obtain ⟨es₁, es₂, y, rfl, hplace, hrest⟩ := yields_outcome_bind.1 hy
  rcases y with f | _ | ⟨e, isNew⟩
  · rw [eq_nil_of_asks (asks_countFailure report _ f) hrest, List.append_nil]
    exact ⟨none, .unplaced hplace (by simp)⟩
  · obtain ⟨rfl, -⟩ := yields_pure.1 hrest
    rw [List.append_nil]
    exact ⟨none, .unplaced hplace (by simp)⟩
  · obtain ⟨_, -, hids⟩ | ⟨_, es₃, _, rfl, hids, hlink⟩ := yields_bind.1 hrest
    · obtain ⟨_, -, hreply⟩ := yields_freshIds.1 hids
      cases hreply
    obtain ⟨ids, rfl, hreply⟩ := yields_freshIds.1 hids
    obtain rfl := Except.ok.inj hreply
    obtain ⟨es₄, es₅, z, rfl, hlink, hcount⟩ := yields_outcome_bind.1 hlink
    rw [eq_nil_of_asks (asks_countLinked _ _ z) hcount, List.append_nil]
    exact ⟨some e.id, .placed hplace hlink⟩

theorem linksAll_linkPending {pending : List PendingEndpoint}
    (hy : (s.linkPending c t report pending).Yields es x) :
    ∃ runs, s.LinksAll c t (pending.map .pending) es x runs := by
  induction pending generalizing report es with
  | nil =>
    obtain ⟨rfl, rfl⟩ := yields_pure.1 hy
    exact ⟨[], .nil _⟩
  | cons p rest ih =>
    obtain ⟨f, rfl, hone⟩ | ⟨es₁, es₂, report', rfl, hone, hrest⟩ := yields_bind.1 hy
    · obtain ⟨id, hlinks⟩ := links_linkNew hone
      exact ⟨_, .stop hlinks⟩
    · obtain ⟨id, hlinks⟩ := links_linkNew hone
      obtain ⟨runs, hruns⟩ := ih hrest
      exact ⟨_, .cons hlinks hruns⟩

/-- How a page is gone through: its traces are judged, one after another, and then its groups are
linked, each by itself. -/
structure GoesThrough (s : Service) (c : ConnectionId) (t : Tenant) (traces : List Trace)
    (es : List Event) (x : Except Failure BackfillReport) (judged : List Judged)
    (runs : List GroupRun) : Prop where
  events : es = judged.flatMap Judged.events ++ runs.flatMap GroupRun.events
  judges : ∀ j ∈ judged, s.Judges t j.trace j.events j.verdict
  links : ∀ r ∈ runs, s.Links c t r
  begun : judged.map Judged.trace <+: traces
  all : ∀ report, x = .ok report → judged.map Judged.trace = traces

/-- The groups that are linked are those of a page that collects all of the traces. -/
theorem goesThrough_linkPage {traces : List Trace}
    (hy : (s.linkPage c t report traces).Yields es x) :
    ∃ judged runs, s.GoesThrough c t traces es x judged runs ∧
      (runs = [] ∧ (∀ report, x ≠ .ok report) ∨
        judged.map Judged.trace = traces ∧ ∃ page : SortedPage, page.Collects judged ∧
          runs.map GroupRun.group <+: page.groups ∧
          ∀ report, x = .ok report → runs.map GroupRun.group = page.groups) := by
  obtain ⟨f, rfl, hsort⟩ | ⟨es₁, es₂, ⟨page, report'⟩, rfl, hsort, hrest⟩ := yields_bind.1 hy
  · obtain ⟨judged, rfl, hjudges, hbegun, -⟩ := judges_sort hsort
    refine ⟨judged, [], ⟨by simp, hjudges, by simp, hbegun, fun _ hx => by cases hx⟩, ?_⟩
    exact .inl ⟨rfl, fun _ hx => by cases hx⟩
  obtain ⟨judged, rfl, hjudges, hbegun, hdone⟩ := judges_sort hsort
  obtain ⟨hall, hcollects⟩ := hdone _ rfl
  have hlinks : ∃ runs, s.LinksAll c t page.groups es₂ x runs := by
    obtain ⟨f, rfl, hmatched⟩ | ⟨es₃, es₄, report', rfl, hmatched, hpending⟩ := yields_bind.1 hrest
    · obtain ⟨runs, hruns⟩ := linksAll_linkMatched hmatched
      exact ⟨runs, hruns.fail _⟩
    · obtain ⟨runs, hruns⟩ := linksAll_linkMatched hmatched
      obtain ⟨runs', hruns'⟩ := linksAll_linkPending hpending
      exact ⟨runs ++ runs', hruns.append hruns'⟩
  obtain ⟨runs, hruns⟩ := hlinks
  refine ⟨judged, runs, ⟨by rw [hruns.events], hjudges, hruns.links, hbegun, fun _ _ => hall⟩, ?_⟩
  exact .inr ⟨hall, page, hcollects [] .empty, hruns.begun, hruns.all⟩

end Service

/-! ## What is sent -/

/-- Endpoints with the same identifier have the same host and method. -/
def NamesEndpoints (es : List Event) : Prop :=
  ∀ e e', Appears es e → Appears es e' → e.id = e'.id → e.host = e'.host ∧ e.method = e'.method

/-- What is sent for the groups of a page. -/
structure LinkedOnce (traces : List Trace) (es : List Event) (judged : List Judged)
    (runs : List GroupRun) : Prop where
  /-- No trace is linked for two groups. -/
  disjoint : runs.Pairwise fun r r' =>
    ∀ l ∈ linksSent r.events, ∀ l' ∈ linksSent r'.events, l.2.Disjoint l'.2
  /-- All links and dates are sent for groups. -/
  quiet : ∀ j ∈ judged, linksSent j.events = [] ∧ datesSent j.events = []
  /-- All traces of the group are linked to its endpoint. -/
  link : ∀ r ∈ runs, ∀ l ∈ linksSent r.events,
    r.endpointId = some l.1 ∧ l.2 = (r.group.members traces).map Trace.id
  /-- The dates of the endpoint are widened to those of the traces of the group. -/
  dates : ∀ r ∈ runs, ∀ d ∈ datesSent r.events, r.endpointId = some d.1 ∧
    d.2.1.IsEarliest (r.group.members traces) ∧ d.2.2.IsLatest (r.group.members traces)
  /-- The traces of the group have the host and the method of an endpoint with its identifier. -/
  endpoint : ∀ r ∈ runs, ∀ id, r.endpointId = some id → ∀ trace ∈ r.group.members traces,
    ∃ e, Appears es e ∧ e.id = id ∧ e.host = trace.host ∧ e.method = trace.method.toUpper
  /-- This is one endpoint for all of them, if it is named by its identifier. -/
  endpoint_all : NamesEndpoints es → ∀ r ∈ runs, ∀ id, r.endpointId = some id →
    ∃ e, Appears es e ∧ e.id = id ∧ ∀ trace ∈ r.group.members traces,
      e.host = trace.host ∧ e.method = trace.method.toUpper

namespace Service

variable {s : Service} {c : ConnectionId} {t : Tenant} {traces : List Trace} {es : List Event}
  {x : Except Failure BackfillReport} {judged : List Judged} {runs : List GroupRun}

theorem GoesThrough.events_judged (h : s.GoesThrough c t traces es x judged runs) {j : Judged}
    (hj : j ∈ judged) : j.events ⊆ es := by
  intro ev hev
  rw [h.events]
  exact List.mem_append_left _ (List.mem_flatMap.2 ⟨j, hj, hev⟩)

theorem GoesThrough.events_run (h : s.GoesThrough c t traces es x judged runs) {r : GroupRun}
    (hr : r ∈ runs) : r.events ⊆ es := by
  intro ev hev
  rw [h.events]
  exact List.mem_append_right _ (List.mem_flatMap.2 ⟨r, hr, hev⟩)

/-- The endpoint of a group has the host and the method of each of its traces. -/
theorem GoesThrough.exists_endpoint (h : s.GoesThrough c t traces es x judged runs)
    (hfinds : FindsAsAsked es) {r : GroupRun} (hr : r ∈ runs) {id : Uuid}
    (hid : r.endpointId = some id) {j : Judged} (hj : j ∈ judged) (htakes : r.group.Takes j) :
    ∃ e, Appears es e ∧ e.id = id ∧ e.host = j.trace.host ∧ e.method = j.trace.method.toUpper := by
  have hsub := h.events_run hr
  have hlinks := h.links r hr
  cases hlinks with
  | matched hlink =>
    obtain rfl := Option.some.inj hid
    obtain ⟨e, hverdict, rfl⟩ := htakes
    have hjudges := h.judges j hj
    rw [hverdict] at hjudges
    have hfound := hjudges.found.subset (h.events_judged hj)
    exact ⟨e, .inl ⟨_, _, hfound⟩, rfl, hfinds _ _ _ hfound⟩
  | @placed p e isNew es₁ es₂ ids y hplace hlink =>
    obtain rfl := Option.some.inj hid
    obtain ⟨-, hhost, hmethod⟩ := htakes
    -- The trace has brought its method in upper case, and the new endpoint keeps it so.
    have hupper : p.method.toUpper = p.method := by rw [hmethod, toUpper_toUpper]
    have hsub : es₁ ⊆ es := List.Subset.trans (List.subset_append_left ..) hsub
    obtain ⟨happears, hehost, hemethod⟩ :=
      appears_of_placeEndpoint hupper (hfinds.subset hsub) hplace
    exact ⟨e, happears.subset hsub, rfl, hehost.trans hhost, hemethod.trans hmethod⟩
  | unplaced hplace hnone => cases hid

section Members

variable (h : s.GoesThrough c t traces es x judged runs)
  (hids : ((judged.map Judged.trace).map Trace.id).Nodup) (hfinds : FindsAsAsked es)
  {r : GroupRun} (hr : r ∈ runs) (hcollects : r.group.Collects judged) {id : Uuid}
  (hid : r.endpointId = some id)

include h hids hfinds hr hcollects hid

theorem GoesThrough.exists_endpoint_of_members :
    ∀ trace ∈ r.group.members (judged.map Judged.trace),
      ∃ e, Appears es e ∧ e.id = id ∧ e.host = trace.host ∧ e.method = trace.method.toUpper := by
  intro trace htrace
  obtain ⟨htrace, hmem⟩ := PageGroup.mem_members.1 htrace
  obtain ⟨j, hj, rfl⟩ := List.mem_map.1 htrace
  exact h.exists_endpoint hfinds hr hid hj (hcollects.takes hids hj hmem)

/-- A group is never empty, so it has an endpoint, and its traces share it. -/
theorem GoesThrough.exists_shared_endpoint (hnames : NamesEndpoints es) :
    ∃ e, Appears es e ∧ e.id = id ∧ ∀ trace ∈ r.group.members (judged.map Judged.trace),
      e.host = trace.host ∧ e.method = trace.method.toUpper := by
  have hall := h.exists_endpoint_of_members hids hfinds hr hcollects hid
  obtain ⟨first, hfirst, -⟩ := (hcollects.isOf_members hids).first.mem
  obtain ⟨e, happears, rfl, -⟩ := hall first hfirst
  refine ⟨e, happears, rfl, fun trace htrace => ?_⟩
  obtain ⟨e', happears', heq, hhost, hmethod⟩ := hall trace htrace
  obtain ⟨hhosts, hmethods⟩ := hnames e e' happears happears' heq.symm
  exact ⟨hhosts.trans hhost, hmethods.trans hmethod⟩

end Members

theorem GoesThrough.quiet (h : s.GoesThrough c t traces es x judged runs) :
    ∀ j ∈ judged, linksSent j.events = [] ∧ datesSent j.events = [] := by
  intro j hj
  have hquiet := (h.judges j hj).quiet
  exact ⟨linksSent_of_quiet hquiet, datesSent_of_quiet hquiet⟩

/-- What is sent for the groups of a page that collects all of the traces. -/
theorem GoesThrough.linkedOnce (h : s.GoesThrough c t traces es x judged runs)
    (hids : (traces.map Trace.id).Nodup) (hfinds : FindsAsAsked es)
    (hall : judged.map Judged.trace = traces) {page : SortedPage} (hpage : page.Collects judged)
    (hbegun : runs.map GroupRun.group <+: page.groups) : LinkedOnce traces es judged runs := by
  subst hall
  have hcollects : ∀ r ∈ runs, r.group.Collects judged := fun r hr =>
    hpage.groups _ (hbegun.subset (List.mem_map_of_mem hr))
  have hof : ∀ r ∈ runs, r.group.group.IsOf (r.group.members (judged.map Judged.trace)) :=
    fun r hr => (hcollects r hr).isOf_members hids
  refine ⟨?_, h.quiet, fun r hr l hl => ?_, fun r hr d hd => ?_, fun r hr id hid => ?_,
    fun hnames r hr id hid => ?_⟩
  · have hdisjoint := (hpage.disjoint hids).sublist hbegun.sublist
    refine (List.pairwise_map.1 hdisjoint).imp_of_mem fun {r r'} hr hr' hdisjoint l hl l' hl' => ?_
    rw [((h.links r hr).eq_of_mem_linksSent hl).2, ((h.links r' hr').eq_of_mem_linksSent hl').2]
    exact hdisjoint
  · obtain ⟨hid, htraces⟩ := (h.links r hr).eq_of_mem_linksSent hl
    exact ⟨hid, htraces.trans (hof r hr).ids⟩
  · obtain ⟨hid, hdates⟩ := (h.links r hr).eq_of_mem_datesSent hd
    rw [hdates]
    exact ⟨hid, (hof r hr).first, (hof r hr).last⟩
  · exact h.exists_endpoint_of_members hids hfinds hr (hcollects r hr) hid
  · exact h.exists_shared_endpoint hids hfinds hr (hcollects r hr) hid hnames

/-- As long as no group is linked, nothing is sent for one. -/
theorem GoesThrough.linkedOnce_nil (h : s.GoesThrough c t traces es x judged []) :
    LinkedOnce traces es judged [] :=
  ⟨.nil, h.quiet, by simp, by simp, by simp, by simp⟩

/-- The traces that are linked are those of groups with an endpoint, if all levels can be opened. -/
theorem GoesThrough.linked_iff (h : s.GoesThrough c t traces es x judged runs)
    (hopen : Opens es) (id : Uuid) :
    (∃ l ∈ linksSent es, id ∈ l.2) ↔
      ∃ r ∈ runs, id ∈ r.group.traceIds ∧ r.endpointId ≠ none := by
  have hsent : linksSent es = linksSent (runs.flatMap GroupRun.events) := by
    rw [h.events, linksSent_append, linksSent_of_quiet, List.nil_append]
    intro ev hev
    obtain ⟨j, hj, hev⟩ := List.mem_flatMap.1 hev
    exact (h.judges j hj).quiet ev hev
  have hmem : ∀ l, l ∈ linksSent es ↔ ∃ r ∈ runs, l ∈ linksSent r.events := fun l => by
    rw [hsent, linksSent, List.filterMap_flatMap, List.mem_flatMap]
    rfl
  constructor
  · rintro ⟨l, hl, hid⟩
    obtain ⟨r, hr, hl⟩ := (hmem l).1 hl
    obtain ⟨hendpoint, htraces⟩ := (h.links r hr).eq_of_mem_linksSent hl
    exact ⟨r, hr, htraces ▸ hid, by simp [hendpoint]⟩
  · rintro ⟨r, hr, hid, hendpoint⟩
    obtain ⟨eid, hendpoint⟩ := Option.ne_none_iff_exists'.1 hendpoint
    have hl := (h.links r hr).mem_linksSent (hopen.subset (h.events_run hr)) hendpoint
    exact ⟨_, (hmem _).2 ⟨r, hr, hl⟩, hid⟩

/-- The traces in groups are those that are to be kept. -/
theorem exists_run_iff {page : SortedPage} (hpage : page.Collects judged)
    (hall : runs.map GroupRun.group = page.groups) (id : Uuid) :
    (∃ r ∈ runs, id ∈ r.group.traceIds) ↔
      ∃ j ∈ judged, j.trace.id = id ∧ j.verdict.isKept := by
  have hkept : id ∈ page.traceIds ↔ id ∈ keptIds judged := hpage.ids.mem_iff
  rw [mem_keptIds, SortedPage.traceIds, ← hall, List.flatMap_map, List.mem_flatMap] at hkept
  exact hkept

/-- No trace is in two groups. -/
theorem eq_of_mem_traceIds {page : SortedPage} (hpage : page.Collects judged)
    (hids : ((judged.map Judged.trace).map Trace.id).Nodup)
    (hall : runs.map GroupRun.group = page.groups) {id : Uuid} {r r' : GroupRun} (hr : r ∈ runs)
    (hr' : r' ∈ runs) (hid : id ∈ r.group.traceIds) (hid' : id ∈ r'.group.traceIds) : r = r' := by
  have hdisjoint := hpage.disjoint hids
  rw [← hall, List.pairwise_map] at hdisjoint
  have hsymm : Std.Symm fun r r' : GroupRun => r.group.traceIds.Disjoint r'.group.traceIds :=
    ⟨fun _ _ h _ hid hid' => h hid' hid⟩
  by_contra hne
  exact hdisjoint.forall hr hr' hne hid hid'

/-- **Each trace of a page is linked at most once, and endpoints are dated right.** The traces have
different identifiers, lookups find what they ask for, and anything may fail. Then the statements
that are sent for the groups of the page are as they should be, whatever becomes of them. If the
page is done and all levels could be opened, then the traces that are linked are those that were
kept by their lookups and whose groups got an endpoint: those that were neither skipped nor failed
in a lookup or an insertion. -/
theorem linkPage_links_once {report : BackfillReport} (hids : (traces.map Trace.id).Nodup)
    (hfinds : FindsAsAsked es) (hy : (s.linkPage c t report traces).Yields es x) :
    ∃ judged runs, s.GoesThrough c t traces es x judged runs ∧
      LinkedOnce traces es judged runs ∧
      ∀ report', x = .ok report' → Opens es → ∀ id, (∃ l ∈ linksSent es, id ∈ l.2) ↔
        ∃ j ∈ judged, j.trace.id = id ∧ j.verdict.isKept ∧
          ∀ r ∈ runs, id ∈ r.group.traceIds → r.endpointId ≠ none := by
  obtain ⟨judged, runs, hthrough, ⟨rfl, hfailed⟩ | ⟨hall, page, hpage, hbegun, hdone⟩⟩ :=
    goesThrough_linkPage hy
  · exact ⟨judged, [], hthrough, hthrough.linkedOnce_nil,
      fun report' hx => absurd hx (hfailed report')⟩
  refine ⟨judged, runs, hthrough, hthrough.linkedOnce hids hfinds hall hpage hbegun,
    fun report' hx hopen id => ?_⟩
  rw [hthrough.linked_iff hopen]
  have hgroups := hdone report' hx
  constructor
  · rintro ⟨r, hr, hid, hendpoint⟩
    obtain ⟨j, hj, hjid, hkept⟩ := (exists_run_iff hpage hgroups id).1 ⟨r, hr, hid⟩
    refine ⟨j, hj, hjid, hkept, fun r' hr' hid' => ?_⟩
    rw [← hall] at hids
    obtain rfl := eq_of_mem_traceIds hpage hids hgroups hr hr' hid hid'
    exact hendpoint
  · rintro ⟨j, hj, hjid, hkept, hendpoint⟩
    obtain ⟨r, hr, hid⟩ := (exists_run_iff hpage hgroups id).2 ⟨j, hj, hjid, hkept⟩
    exact ⟨r, hr, hid, hendpoint r hr hid⟩

/-- Traces of a stored endpoint and of a new template, in turns, and one without a path. -/
def mixedPage : List Trace :=
  [.bare (.ofNat 1) ⟨5, 0⟩ "api.local" "GET" "/users" 200,
    .bare (.ofNat 2) ⟨9, 0⟩ "api.local" "POST" "/orders" 200,
    .bare (.ofNat 3) ⟨7, 0⟩ "api.local" "GET" "" 200,
    .bare (.ofNat 4) ⟨2, 0⟩ "api.local" "GET" "/users" 200,
    .bare (.ofNat 5) ⟨6, 0⟩ "api.local" "POST" "/orders" 200]

/-- The database refuses the first link once. -/
def refusingLinkClerk : Clerk where
  store := [.ofTemplate (.ofNat 9) "api.local" "GET" ⟨"/users", "^/users(/)*$", 0, false⟩]
  plan := [none, none, some (.server (some "40P01") "deadlock detected")]

/-- The transcript of linking the page. -/
def mixedTranscript : List Event :=
  refusingLinkClerk.transcript (plain.linkPage 0 .standard {} mixedPage)

theorem linkPage_links_once_mixed :
    linksSent mixedTranscript =
        [(.ofNat 9, [.ofNat 1, .ofNat 4]), (.ofNat 9, [.ofNat 1, .ofNat 4]),
          (.ofNat 0, [.ofNat 2, .ofNat 5])] ∧
      datesSent mixedTranscript = [(.ofNat 9, ⟨2, 0⟩, ⟨5, 0⟩), (.ofNat 0, ⟨6, 0⟩, ⟨9, 0⟩)] ∧
      ∃ judged runs, plain.GoesThrough 0 .standard mixedPage mixedTranscript
          (.ok ⟨0, 4, 1, 0, 1, 0⟩) judged runs ∧
        LinkedOnce mixedPage mixedTranscript judged runs ∧
        ∃ j ∈ judged, j.trace.id = .ofNat 5 ∧ j.verdict.isKept ∧
          ∀ r ∈ runs, .ofNat 5 ∈ r.group.traceIds → r.endpointId ≠ none := by
  have hids : (mixedPage.map Trace.id).Nodup := by decide +kernel
  have hfinds : FindsAsAsked mixedTranscript := by decide +kernel
  have hopen : Opens mixedTranscript := by decide +kernel
  have hlinks : linksSent mixedTranscript =
      [(.ofNat 9, [.ofNat 1, .ofNat 4]), (.ofNat 9, [.ofNat 1, .ofNat 4]),
        (.ofNat 0, [.ofNat 2, .ofNat 5])] := by
    decide +kernel
  have hdates : datesSent mixedTranscript =
      [(.ofNat 9, ⟨2, 0⟩, ⟨5, 0⟩), (.ofNat 0, ⟨6, 0⟩, ⟨9, 0⟩)] := by
    decide +kernel
  have hdone : (refusingLinkClerk.attend (plain.linkPage 0 .standard {} mixedPage)).1 =
      .ok ⟨0, 4, 1, 0, 1, 0⟩ := by
    decide +kernel
  have hy := refusingLinkClerk.yields_transcript (plain.linkPage 0 .standard {} mixedPage)
  rw [hdone] at hy
  obtain ⟨judged, runs, hthrough, honce, hlinked⟩ := linkPage_links_once hids hfinds hy
  refine ⟨hlinks, hdates, judged, runs, hthrough, honce, ?_⟩
  exact (hlinked _ rfl hopen (.ofNat 5)).1
    ⟨(.ofNat 0, [.ofNat 2, .ofNat 5]), by simp [hlinks], by simp⟩

end Service

end TrafficLens
