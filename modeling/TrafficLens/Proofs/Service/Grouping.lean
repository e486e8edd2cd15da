import Mathlib.Data.List.Perm.Subperm
import TrafficLens.Proofs.Dict
import TrafficLens.Proofs.Service.Announcement
import TrafficLens.Proofs.Service.Sorting

/-!
# The groups of a page

While a page is sorted its groups grow in two lists: those that go to stored endpoints, by the
endpoint, and those that go to new templates, in the order of their first traces. A trace is judged
by its lookup (`Judgement`), and only some verdicts put it into a group.

`SortedPage.Collects` is what holds at every moment. The groups together have the identifiers of the
traces that were put into groups, each as often as there is such a trace; and every group is made of
traces that go to the same endpoint or template, with the earliest and the latest of their times
(`PageGroup.Collects`). Each way to sort one more trace keeps this (`Service.judges_sortTrace`). If
the traces have different identifiers then it follows that none is in two groups
(`SortedPage.Collects.disjoint`), and that a group holds just the traces of the page whose
identifiers it has, with their span (`PageGroup.Collects.isOf_members`).
-/

namespace TrafficLens

open Attempt

instance : Std.LawfulEqOrd Uuid where
  compare_self := Nat.compare_eq_eq.2 rfl
  eq_of_compare := Uuid.eq_of_compare

/-! ## Spans of time -/

instance : Std.TransOrd Instant :=
  inferInstanceAs (Std.TransCmp (compareLex (compareOn Instant.seconds) (compareOn Instant.nanos)))

/-- The instant is the earliest time at which one of the traces came. -/
structure Instant.IsEarliest (first : Instant) (traces : List Trace) : Prop where
  mem : ∃ trace ∈ traces, trace.createdAt = first
  isLE : ∀ trace ∈ traces, (compare first trace.createdAt).isLE

/-- The instant is the latest time at which one of the traces came. -/
structure Instant.IsLatest (last : Instant) (traces : List Trace) : Prop where
  mem : ∃ trace ∈ traces, trace.createdAt = last
  isLE : ∀ trace ∈ traces, (compare trace.createdAt last).isLE

namespace Instant

open Std

variable {first last : Instant} {traces : List Trace}

theorem earlier_isLE_left (a b : Instant) : (compare (a.earlier b) a).isLE := by
  rw [earlier]
  split
  · next h => simp [beq_iff_eq.1 h]
  · exact ReflCmp.isLE_rfl

theorem earlier_isLE_right (a b : Instant) : (compare (a.earlier b) b).isLE := by
  rw [earlier]
  split
  · exact ReflCmp.isLE_rfl
  · next h => exact OrientedCmp.isGE_iff_isLE.1 (by simpa [Ordering.isGE_iff_ne_lt] using h)

theorem isLE_later_left (a b : Instant) : (compare a (a.later b)).isLE := by
  rw [later]
  split
  · exact ReflCmp.isLE_rfl
  · next h => simpa [Ordering.isLE_iff_ne_gt] using h

theorem isLE_later_right (a b : Instant) : (compare b (a.later b)).isLE := by
  rw [later]
  split
  · next h => simp [OrientedCmp.gt_iff_lt.1 (beq_iff_eq.1 h)]
  · exact ReflCmp.isLE_rfl

theorem earlier_eq_or (a b : Instant) : a.earlier b = a ∨ a.earlier b = b := by
  rw [earlier]
  split
  · exact .inr rfl
  · exact .inl rfl

theorem later_eq_or (a b : Instant) : a.later b = a ∨ a.later b = b := by
  rw [later]
  split
  · exact .inl rfl
  · exact .inr rfl

theorem IsEarliest.concat (h : first.IsEarliest traces) (trace : Trace) :
    (first.earlier trace.createdAt).IsEarliest (traces ++ [trace]) where
  mem := by
    obtain ⟨m, hm, hfirst⟩ := h.mem
    rcases earlier_eq_or first trace.createdAt with heq | heq
    · exact ⟨m, List.mem_append_left _ hm, by rw [heq, hfirst]⟩
    · exact ⟨trace, List.mem_append_right _ (List.mem_singleton_self _), heq.symm⟩
  isLE m hm := by
    rcases List.mem_append.1 hm with hm | hm
    · exact TransCmp.isLE_trans (earlier_isLE_left ..) (h.isLE m hm)
    · obtain rfl := List.mem_singleton.1 hm
      exact earlier_isLE_right ..

theorem IsLatest.concat (h : last.IsLatest traces) (trace : Trace) :
    (last.later trace.createdAt).IsLatest (traces ++ [trace]) where
  mem := by
    obtain ⟨m, hm, hlast⟩ := h.mem
    rcases later_eq_or last trace.createdAt with heq | heq
    · exact ⟨m, List.mem_append_left _ hm, by rw [heq, hlast]⟩
    · exact ⟨trace, List.mem_append_right _ (List.mem_singleton_self _), heq.symm⟩
  isLE m hm := by
    rcases List.mem_append.1 hm with hm | hm
    · exact TransCmp.isLE_trans (h.isLE m hm) (isLE_later_left ..)
    · obtain rfl := List.mem_singleton.1 hm
      exact isLE_later_right ..

end Instant

/-- The group holds these traces, in this order, and spans their times. -/
structure TraceGroup.IsOf (g : TraceGroup) (traces : List Trace) : Prop where
  ids : g.traceIds = traces.map Trace.id
  first : g.first.IsEarliest traces
  last : g.last.IsLatest traces

namespace TraceGroup

theorem isOf_single (trace : Trace) : (single trace).IsOf [trace] where
  ids := rfl
  first := ⟨⟨trace, List.mem_singleton_self _, rfl⟩, by simp [single]⟩
  last := ⟨⟨trace, List.mem_singleton_self _, rfl⟩, by simp [single]⟩

theorem IsOf.add {g : TraceGroup} {traces : List Trace} (h : g.IsOf traces) (trace : Trace) :
    (g.add trace).IsOf (traces ++ [trace]) where
  ids := by
    show g.traceIds ++ [trace.id] = _
    rw [h.ids, List.map_append, List.map_singleton]
  first := h.first.concat trace
  last := h.last.concat trace

end TraceGroup

theorem map_fst_matchedLinks (groups : List (Uuid × TraceGroup)) :
    (matchedLinks groups).map Prod.fst = groups.flatMap fun g => g.2.traceIds := by
  simp [matchedLinks, TraceGroup.links, List.map_flatMap, Function.comp_def]

namespace PendingEndpoint

variable {trace : Trace} {path : String} {ps ps' : List PendingEndpoint}

/-- A template is as it was, or it takes the trace and has got it. -/
theorem mem_or_eq_of_addTo? (hadd : addTo? trace path ps = some ps') {p : PendingEndpoint}
    (hp : p ∈ ps') :
    p ∈ ps ∨ ∃ q ∈ ps, q.host = trace.host ∧ q.method = trace.method ∧
      p = { q with group := q.group.add trace } := by
  induction ps generalizing ps' with
  | nil => cases hadd
  | cons q ps ih =>
    rw [addTo?] at hadd
    split at hadd
    · next htakes =>
      obtain rfl := Option.some.inj hadd
      rcases List.mem_cons.1 hp with rfl | hp
      · simp only [takes, Bool.and_eq_true, beq_iff_eq] at htakes
        exact .inr ⟨q, List.mem_cons_self, htakes.1.1, htakes.1.2, rfl⟩
      · exact .inl (List.mem_cons_of_mem _ hp)
    · obtain ⟨rest, hrest, rfl⟩ := Option.map_eq_some_iff.1 hadd
      rcases List.mem_cons.1 hp with rfl | hp
      · exact .inl List.mem_cons_self
      · rcases ih hrest hp with hp | ⟨q', hq', h⟩
        · exact .inl (List.mem_cons_of_mem _ hp)
        · exact .inr ⟨q', List.mem_cons_of_mem _ hq', h⟩

/-- One more trace in the group of a template is one more trace. -/
theorem perm_traceIds_addTo? (hadd : addTo? trace path ps = some ps') :
    (ps'.flatMap fun p => p.group.traceIds).Perm
      ((ps.flatMap fun p => p.group.traceIds) ++ [trace.id]) := by
  induction ps generalizing ps' with
  | nil => cases hadd
  | cons q ps ih =>
    rw [addTo?] at hadd
    split at hadd
    · obtain rfl := Option.some.inj hadd
      simp only [List.flatMap_cons, TraceGroup.add, List.append_assoc]
      exact .append_left _ List.perm_append_comm
    · obtain ⟨rest, hrest, rfl⟩ := Option.map_eq_some_iff.1 hadd
      simp only [List.flatMap_cons, List.append_assoc]
      exact .append_left _ (ih hrest)

end PendingEndpoint

/-! ## Verdicts -/

/-- What the lookup of a trace says about it. -/
inductive Judgement where
  /-- There can be no endpoint for it. -/
  | skipped
  /-- The lookup failed. -/
  | failed
  /-- A stored endpoint takes it. -/
  | known (endpoint : Endpoint)
  /-- No stored endpoint takes it, and it goes by its template. -/
  | unknown

/-- Is a trace with this verdict put into a group? -/
def Judgement.isKept : Judgement → Bool
  | skipped | failed => false
  | known _ | unknown => true

/-- A trace of a page, with the transcript of its lookup and what it says. -/
structure Judged where
  trace : Trace
  events : List Event
  verdict : Judgement

/-- The identifiers of the traces that are put into groups. -/
def keptIds (judged : List Judged) : List Uuid :=
  (judged.filter fun j => j.verdict.isKept).map fun j => j.trace.id

theorem mem_keptIds {judged : List Judged} {id : Uuid} :
    id ∈ keptIds judged ↔ ∃ j ∈ judged, j.trace.id = id ∧ j.verdict.isKept := by
  rw [keptIds, List.mem_map]
  refine exists_congr fun j => ?_
  rw [List.mem_filter, and_assoc]
  exact and_congr_right fun _ => and_comm

/-! ## Groups -/

/-- A group of a page, with what it goes to. -/
inductive PageGroup where
  | matched (endpointId : Uuid) (group : TraceGroup)
  | pending (p : PendingEndpoint)

namespace PageGroup

/-- The traces of the group, and their span. -/
def group : PageGroup → TraceGroup
  | matched _ g => g
  | pending p => p.group

/-- The identifiers of the traces. -/
def traceIds (g : PageGroup) : List Uuid := g.group.traceIds

/-- Does a trace with this verdict go where the group goes? -/
def Takes : PageGroup → Judged → Prop
  | matched id _, j => ∃ e, j.verdict = .known e ∧ e.id = id
  | pending p, j =>
    j.verdict = .unknown ∧ p.host = j.trace.host ∧ p.method = j.trace.method.toUpper

/-- The group is made of judged traces that go where it goes. -/
def Collects (g : PageGroup) (judged : List Judged) : Prop :=
  ∃ members : List Judged, members.Sublist judged ∧ (∀ m ∈ members, g.Takes m) ∧
    g.group.IsOf (members.map Judged.trace)

variable {g : PageGroup} {judged : List Judged}

theorem Collects.append (h : g.Collects judged) (more : List Judged) :
    g.Collects (judged ++ more) := by
  obtain ⟨members, hsub, htakes, hof⟩ := h
  exact ⟨members, hsub.trans (List.sublist_append_left ..), htakes, hof⟩

/-- A group of one trace, or one that has got one more. -/
theorem Collects.join {j : Judged} {old : Option TraceGroup}
    (hold : ∀ o ∈ old, ∃ before : PageGroup, before.Collects judged ∧ before.group = o ∧
      ∀ m, before.Takes m → g.Takes m)
    (hj : g.Takes j) (hg : g.group = TraceGroup.join j.trace old) :
    g.Collects (judged ++ [j]) := by
  cases old with
  | none =>
    refine ⟨[j], List.sublist_append_right .., by simpa using hj, ?_⟩
    rw [hg]
    exact TraceGroup.isOf_single j.trace
  | some o =>
    obtain ⟨before, ⟨members, hsub, htakes, hof⟩, rfl, hmono⟩ := hold o rfl
    refine ⟨members ++ [j], hsub.append_right [j], fun m hm => ?_, ?_⟩
    · rcases List.mem_append.1 hm with hm | hm
      · exact hmono m (htakes m hm)
      · obtain rfl := List.mem_singleton.1 hm
        exact hj
    · rw [hg, List.map_append]
      exact hof.add j.trace

/-- The traces of a page that are in the group. -/
def members (g : PageGroup) (traces : List Trace) : List Trace :=
  traces.filter fun trace => trace.id ∈ g.traceIds

theorem mem_members {traces : List Trace} {trace : Trace} :
    trace ∈ g.members traces ↔ trace ∈ traces ∧ trace.id ∈ g.traceIds := by
  simp [members]

/-- If the traces have different identifiers then those in the group are those whose identifiers it
has. -/
theorem members_eq_of_sublist {traces ts : List Trace} (hids : (traces.map Trace.id).Nodup)
    (hsub : ts.Sublist traces) (hg : g.traceIds = ts.map Trace.id) : g.members traces = ts := by
  -- The members of the group are a sublist of those with its identifiers, and not a shorter one.
  have hall : ts.filter (fun trace => trace.id ∈ g.traceIds) = ts := by
    refine List.filter_eq_self.2 fun trace htrace => ?_
    rw [hg]
    simpa using ⟨trace, htrace, rfl⟩
  have hle : (g.members traces).length ≤ ts.length := by
    have hnodup : (g.members traces).Nodup := hids.of_map.filter _
    refine (hnodup.subperm fun trace htrace => ?_).length_le
    obtain ⟨htrace, hid⟩ := mem_members.1 htrace
    rw [hg] at hid
    obtain ⟨other, hother, heq⟩ := List.mem_map.1 hid
    obtain rfl := List.inj_on_of_nodup_map hids (hsub.subset hother) htrace heq
    exact hother
  have hfilter : ts.Sublist (g.members traces) := hall ▸ hsub.filter _
  exact (hfilter.eq_of_length_le hle).symm

section Members

variable (h : g.Collects judged) (hids : ((judged.map Judged.trace).map Trace.id).Nodup)

include h hids

theorem Collects.isOf_members : g.group.IsOf (g.members (judged.map Judged.trace)) := by
  obtain ⟨ms, hsub, -, hof⟩ := h
  rw [members_eq_of_sublist hids (hsub.map _) hof.ids]
  exact hof

theorem Collects.takes {j : Judged} (hj : j ∈ judged) (hid : j.trace.id ∈ g.traceIds) :
    g.Takes j := by
  obtain ⟨ms, hsub, htakes, hof⟩ := h
  rw [traceIds, hof.ids, List.map_map] at hid
  obtain ⟨m, hm, hmid⟩ := List.mem_map.1 hid
  rw [List.map_map] at hids
  obtain rfl : m = j := List.inj_on_of_nodup_map hids (hsub.subset hm) hj hmid
  exact htakes m hm

end Members

end PageGroup

/-! ## Pages -/

namespace SortedPage

/-- The groups of a page, in the order in which they are linked. -/
def groups (page : SortedPage) : List PageGroup :=
  page.matched.map (fun g => .matched g.1 g.2) ++ page.pending.map .pending

theorem mem_groups {page : SortedPage} {g : PageGroup} :
    g ∈ page.groups ↔
      (∃ m ∈ page.matched, PageGroup.matched m.1 m.2 = g) ∨
        ∃ p ∈ page.pending, PageGroup.pending p = g := by
  simp only [groups, List.mem_append, List.mem_map]

/-- The identifiers of the traces of the groups, group by group. -/
def traceIds (page : SortedPage) : List Uuid := page.groups.flatMap PageGroup.traceIds

theorem traceIds_eq (page : SortedPage) :
    page.traceIds = (page.matched.flatMap fun g => g.2.traceIds) ++
      page.pending.flatMap fun p => p.group.traceIds := by
  rw [traceIds, groups, List.flatMap_append, List.flatMap_map, List.flatMap_map]
  rfl

/-- The groups are made of the traces that were put into groups, and each of these is in one of
them as often as it was judged. -/
structure Collects (page : SortedPage) (judged : List Judged) : Prop where
  groups : ∀ g ∈ page.groups, g.Collects judged
  ids : page.traceIds.Perm (keptIds judged)

namespace Collects

open PendingEndpoint

variable {page page' : SortedPage} {judged : List Judged} {j : Judged}

theorem empty : ({} : SortedPage).Collects [] where
  groups g hg := by cases hg
  ids := .refl _

/-- A trace that is put into no group. -/
theorem skip (h : page.Collects judged) (hj : j.verdict.isKept = false) :
    page.Collects (judged ++ [j]) where
  groups g hg := (h.groups g hg).append [j]
  ids := by
    have hids : keptIds (judged ++ [j]) = keptIds judged := by simp [keptIds, hj]
    rw [hids]
    exact h.ids

/-- One group of the page is new or has got one more trace, and the others are as they were. -/
theorem join (h : page.Collects judged) (hj : j.verdict.isKept)
    (hgroups : ∀ g ∈ page'.groups, g ∈ page.groups ∨ g.Takes j ∧ ∃ old,
      (∀ o ∈ old, ∃ before ∈ page.groups, before.group = o ∧ ∀ m, before.Takes m → g.Takes m) ∧
        g.group = TraceGroup.join j.trace old)
    (hids : page'.traceIds.Perm (page.traceIds ++ [j.trace.id])) :
    page'.Collects (judged ++ [j]) where
  groups g hg := by
    rcases hgroups g hg with hg | ⟨htakes, old, hold, hgroup⟩
    · exact (h.groups g hg).append [j]
    · refine .join (fun o ho => ?_) htakes hgroup
      obtain ⟨before, hbefore, hbefore'⟩ := hold o ho
      exact ⟨before, h.groups before hbefore, hbefore'⟩
  ids := by
    have hkept : keptIds (judged ++ [j]) = keptIds judged ++ [j.trace.id] := by
      simp [keptIds, hj]
    rw [hkept]
    exact hids.trans (h.ids.append_right _)

/-- A trace that goes to a stored endpoint. -/
theorem join_matched (h : page.Collects judged) {e : Endpoint} (hj : j.verdict = .known e) :
    ({ page with matched := Dict.alter e.id (TraceGroup.join j.trace) page.matched }).Collects
      (judged ++ [j]) := by
  refine h.join (by rw [hj]; rfl) (fun g hg => ?_) ?_
  · rcases mem_groups.1 hg with ⟨m, hm, rfl⟩ | ⟨p, hp, rfl⟩
    · rcases Dict.mem_or_eq_of_mem_alter hm with hm | ⟨old, hold, rfl⟩
      · exact .inl (mem_groups.2 (.inl ⟨m, hm, rfl⟩))
      · refine .inr ⟨⟨e, hj, rfl⟩, old, fun o ho => ?_, rfl⟩
        exact ⟨.matched e.id o, mem_groups.2 (.inl ⟨_, hold o ho, rfl⟩), rfl, fun m hm => hm⟩
    · exact .inl (mem_groups.2 (.inr ⟨p, hp, rfl⟩))
  · have hmatched := (perm_matchedLinks_alter e.id j.trace page.matched).map Prod.fst
    rw [List.map_append, map_fst_matchedLinks, map_fst_matchedLinks] at hmatched
    rw [traceIds_eq, traceIds_eq, List.append_assoc]
    refine (hmatched.append_right _).trans ?_
    rw [List.append_assoc]
    exact .append_left _ List.perm_append_comm

/-- A trace that goes with a template of the page. -/
theorem join_pending (h : page.Collects judged) (hj : j.verdict = .unknown) {path : String}
    {pending : List PendingEndpoint}
    (hadd : addTo? (upper j.trace) path page.pending = some pending) :
    ({ page with pending }).Collects (judged ++ [j]) := by
  refine h.join (by rw [hj]; rfl) (fun g hg => ?_) ?_
  · rcases mem_groups.1 hg with ⟨m, hm, rfl⟩ | ⟨p, hp, rfl⟩
    · exact .inl (mem_groups.2 (.inl ⟨m, hm, rfl⟩))
    · rcases mem_or_eq_of_addTo? hadd hp with hp | ⟨q, hq, hhost, hmethod, rfl⟩
      · exact .inl (mem_groups.2 (.inr ⟨p, hp, rfl⟩))
      · refine .inr ⟨⟨hj, hhost, hmethod⟩, some q.group, fun o ho => ?_, rfl⟩
        obtain rfl := Option.some.inj ho
        exact ⟨.pending q, mem_groups.2 (.inr ⟨q, hq, rfl⟩), rfl, fun m hm => hm⟩
  · rw [traceIds_eq, traceIds_eq, List.append_assoc]
    have hpending := perm_traceIds_addTo? hadd
    exact .append_left _ hpending

/-- A trace that brings up a template. -/
theorem lead (h : page.Collects judged) (hj : j.verdict = .unknown) (template : PathTemplate) :
    ({ page with
      pending := page.pending ++ [PendingEndpoint.lead (upper j.trace) template] }).Collects
      (judged ++ [j]) := by
  refine h.join (by rw [hj]; rfl) (fun g hg => ?_) ?_
  · rcases mem_groups.1 hg with ⟨m, hm, rfl⟩ | ⟨p, hp, rfl⟩
    · exact .inl (mem_groups.2 (.inl ⟨m, hm, rfl⟩))
    · rcases List.mem_append.1 hp with hp | hp
      · exact .inl (mem_groups.2 (.inr ⟨p, hp, rfl⟩))
      · obtain rfl := List.mem_singleton.1 hp
        exact .inr ⟨⟨hj, rfl, rfl⟩, none, by simp, rfl⟩
  · rw [traceIds_eq, traceIds_eq, List.append_assoc, List.flatMap_append]
    exact .refl _

/-- No trace is in two groups, if the traces of the page have different identifiers. -/
theorem disjoint (h : page.Collects judged)
    (hids : ((judged.map Judged.trace).map Trace.id).Nodup) :
    page.groups.Pairwise fun g g' => g.traceIds.Disjoint g'.traceIds := by
  rw [List.map_map] at hids
  have hkept : (keptIds judged).Nodup := hids.sublist (List.filter_sublist.map _)
  exact (List.nodup_flatMap.1 (h.ids.nodup_iff.2 hkept)).2

end Collects

end SortedPage

/-! ## Sorting -/

theorem eq_nil_of_asks {α : Type} {a : Attempt α} {es : List Event} {x : Except Failure α}
    (h : Asks (fun _ => False) a) (hy : a.Yields es x) : es = [] :=
  List.eq_nil_iff_forall_not_mem.2 (h hy)

/-- What an answer to the lookup of a trace says about it. -/
def Judgement.ofLookup (trace : Trace) : Except Failure (Option Endpoint) → Judgement
  | .error _ => .failed
  | .ok (some e) => .known e
  | .ok none => if trace.isNotFound then .skipped else .unknown

namespace Service

open PendingEndpoint

/-- The ways in which a trace is judged: without a lookup if it has no path, and else by one. -/
inductive Judges (s : Service) (t : Tenant) (trace : Trace) : List Event → Judgement → Prop
  | pathless (hpath : Path.normalize trace.path = "") : Judges s t trace [] .skipped
  | lookup {es : List Event} {y : Except Failure (Option Endpoint)}
    (hpath : Path.normalize trace.path ≠ "")
    (hfind : (s.resolver.find t trace.host trace.method.toUpper
      (Path.normalize trace.path)).Yields es y) : Judges s t trace es (.ofLookup trace y)

variable {s : Service} {t : Tenant} {trace : Trace} {page : SortedPage} {judged : List Judged}
  {es : List Event}

/-- A trace that no stored endpoint takes is skipped, or it goes with a template. -/
theorem collects_sortPending (h : page.Collects judged) (hpath : Path.normalize trace.path ≠ "")
    (report : BackfillReport) (es : List Event) :
    (s.sortPending (upper trace) (Path.normalize trace.path) page report).1.Collects
      (judged ++ [⟨trace, es, .ofLookup trace (.ok none)⟩]) := by
  have hupper : (upper trace).isNotFound = trace.isNotFound := rfl
  rw [sortPending, hupper, Judgement.ofLookup]
  split
  · exact h.skip rfl
  · split
    · next pending hadd => exact h.join_pending (j := ⟨trace, es, .unknown⟩) rfl hadd
    · split
      · next hinfer => exact absurd hinfer (s.resolver.policy.infer_ne_none hpath)
      · next template hinfer => exact h.lead (j := ⟨trace, es, .unknown⟩) rfl template

/-- A trace is judged, and then the page holds it if it is to be kept. -/
theorem judges_sortTrace {report : BackfillReport}
    {x : Except Failure (SortedPage × BackfillReport)}
    (hy : (s.sortTrace t trace page report).Yields es x) :
    ∃ verdict, s.Judges t trace es verdict ∧ ∀ sorted, x = .ok sorted → ∀ before,
      page.Collects before → sorted.1.Collects (before ++ [⟨trace, es, verdict⟩]) := by
  rw [sortTrace] at hy
  dsimp only at hy
  split at hy
  · next hempty =>
    obtain ⟨rfl, rfl⟩ := yields_pure.1 hy
    have hpath : Path.normalize trace.path = "" := by simpa using hempty
    refine ⟨.skipped, .pathless hpath, fun sorted hsorted before h => ?_⟩
    obtain rfl := Except.ok.inj hsorted
    exact h.skip rfl
  next hpath =>
  have hpath : Path.normalize trace.path ≠ "" := by simpa using hpath
  obtain ⟨es₁, es₂, y, rfl, hfind, hrest⟩ := yields_outcome_bind.1 hy
  have hsorted : es₂ = [] ∧ ∀ sorted, x = .ok sorted → ∀ before, page.Collects before →
      sorted.1.Collects (before ++ [⟨trace, es₁, .ofLookup trace y⟩]) := by
    rcases y with f | _ | e
    · have hcount : ∀ {es z}, (report.countFailure 1 f).Yields es z → es = [] := fun hfailure =>
        eq_nil_of_asks (asks_countFailure report 1 f) hfailure
      obtain ⟨e, rfl, hfailure⟩ | ⟨es₃, es₄, r, rfl, hfailure, hpure⟩ := yields_bind.1 hrest
      · exact ⟨hcount hfailure, fun _ hok => by cases hok⟩
      · obtain ⟨rfl, rfl⟩ := yields_pure.1 hpure
        refine ⟨by rw [hcount hfailure, List.append_nil], fun sorted hok before h => ?_⟩
        cases hok
        exact h.skip rfl
    · obtain ⟨rfl, rfl⟩ := yields_pure.1 hrest
      refine ⟨rfl, fun sorted hok before h => ?_⟩
      cases hok
      exact collects_sortPending h hpath report es₁
    · obtain ⟨rfl, rfl⟩ := yields_pure.1 hrest
      refine ⟨rfl, fun sorted hok before h => ?_⟩
      cases hok
      exact h.join_matched (j := ⟨trace, es₁, .known e⟩) rfl
  obtain ⟨rfl, hsorted⟩ := hsorted
  rw [List.append_nil]
  exact ⟨_, .lookup hpath hfind, hsorted⟩

/-- The traces of a page are judged, one after another, until a lookup loses the connection, and
then the page holds those that are to be kept. -/
theorem judges_sort {report : BackfillReport} {traces : List Trace}
    {x : Except Failure (SortedPage × BackfillReport)}
    (hy : (s.sort t page report traces).Yields es x) :
    ∃ judged : List Judged, es = judged.flatMap Judged.events ∧
      (∀ j ∈ judged, s.Judges t j.trace j.events j.verdict) ∧
      judged.map Judged.trace <+: traces ∧
      ∀ sorted, x = .ok sorted → judged.map Judged.trace = traces ∧
        ∀ before, page.Collects before → sorted.1.Collects (before ++ judged) := by
  induction traces generalizing page report es with
  | nil =>
    obtain ⟨rfl, rfl⟩ := yields_pure.1 hy
    refine ⟨[], rfl, by simp, List.nil_prefix, fun sorted hsorted => ⟨rfl, fun before h => ?_⟩⟩
    obtain rfl := Except.ok.inj hsorted
    rwa [List.append_nil]
  | cons trace rest ih =>
    obtain ⟨f, rfl, hone⟩ | ⟨es₁, es₂, ⟨page', report'⟩, rfl, hone, hrest⟩ := yields_bind.1 hy
    · obtain ⟨verdict, hjudges, -⟩ := judges_sortTrace hone
      refine ⟨[⟨trace, es, verdict⟩], by simp, by simpa using hjudges, ?_, fun _ hs => by cases hs⟩
      exact List.prefix_append [trace] rest
    · obtain ⟨verdict, hjudges, hcollect⟩ := judges_sortTrace hone
      obtain ⟨judged, rfl, hjudged, hbegun, hdone⟩ := ih hrest
      refine ⟨⟨trace, es₁, verdict⟩ :: judged, rfl, ?_, ?_, fun sorted hsorted => ?_⟩
      · exact List.forall_mem_cons.2 ⟨hjudges, hjudged⟩
      · exact List.prefix_cons_inj trace |>.2 hbegun
      · obtain ⟨hall, hcollects⟩ := hdone sorted hsorted
        refine ⟨by rw [List.map_cons, hall], fun before h => ?_⟩
        rw [List.append_cons]
        exact hcollects _ (hcollect _ rfl before h)

end Service

end TrafficLens
