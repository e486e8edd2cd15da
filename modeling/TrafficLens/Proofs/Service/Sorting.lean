import Mathlib.Data.List.Induction
import TrafficLens.Proofs.Service.Succession
import TrafficLens.Service.Backfill

/-!
# How a batch is sorted

A trace of a batch goes to the stored endpoint that takes it, as the store was before the batch.
Other traces go by templates: a trace that no template of the batch takes brings up its own, and so
becomes a leader, and the others follow the first leader whose template takes them. So where a trace
goes (`Resolver.target`) depends only on the store and on the leaders before it
(`Resolver.leaders`).

`performs_sort` says that a sorted page is that: its templates are those of the leaders, in their
order, and its groups hold each trace as often as it is in the batch, with its target.
-/

namespace TrafficLens

open Attempt

/-! ## Leaders and targets -/

namespace Resolver

/-- The stored endpoint that a trace gets, if the bypass accepts it. -/
def known (r : Resolver) (store : MemoryStore) (trace : Trace) : Option Endpoint :=
  r.accepted store trace.host trace.method.toUpper (Path.normalize trace.path)

/-- Does the template of one trace take another trace? -/
def covers (r : Resolver) (leader trace : Trace) : Bool :=
  leader.host == trace.host && leader.method.toUpper == trace.method.toUpper &&
    match r.policy.infer (Path.normalize leader.path) with
    | some template => Pattern.isMatch template.pattern (Path.normalize trace.path)
    | none => false

/-- Does a trace bring up a template, after traces that did? -/
def leads (r : Resolver) (store : MemoryStore) (leaders : List Trace) (trace : Trace) : Bool :=
  !(Path.normalize trace.path).isEmpty && (r.known store trace).isNone && !trace.isNotFound &&
    !leaders.any (r.covers · trace)

/-- The traces that have brought up a template, after one more trace. -/
def follow (r : Resolver) (store : MemoryStore) (leaders : List Trace) (trace : Trace) :
    List Trace :=
  if r.leads store leaders trace then leaders ++ [trace] else leaders

/-- The traces of a batch that bring up a template. -/
def leaders (r : Resolver) (store : MemoryStore) (batch : List Trace) : List Trace :=
  batch.foldl (r.follow store) []

/-- Where a trace goes after some leaders, if it is known where these and the trace itself go as
leaders: to a stored endpoint, with the first leader whose template takes it, or nowhere. -/
def target (r : Resolver) (store : MemoryStore) (ids : Nat → Uuid) (leaders : List Trace)
    (trace : Trace) : Option Uuid :=
  if (Path.normalize trace.path).isEmpty then none
  else
    match r.known store trace with
    | some e => some e.id
    | none =>
      if trace.isNotFound then none else some (ids (leaders.findIdx (r.covers · trace)))

/-- Where the traces of a batch go, after some leaders. -/
def targets (r : Resolver) (store : MemoryStore) (ids : Nat → Uuid) :
    (leaders : List Trace) → (batch : List Trace) → List (Option Uuid)
  | _, [] => []
  | leaders, trace :: rest =>
    r.target store ids leaders trace :: targets r store ids (r.follow store leaders trace) rest

variable {r : Resolver} {store : MemoryStore} {ids : Nat → Uuid}

theorem leaders_concat (batch : List Trace) (trace : Trace) :
    r.leaders store (batch ++ [trace]) = r.follow store (r.leaders store batch) trace := by
  rw [leaders, List.foldl_append]
  rfl

/-- Leaders stay what they are. -/
theorem exists_leaders_append (r : Resolver) (store : MemoryStore) (before after : List Trace) :
    ∃ more, r.leaders store (before ++ after) = r.leaders store before ++ more := by
  induction after using List.reverseRecOn with
  | nil => exact ⟨[], by simp⟩
  | append_singleton after trace ih =>
    obtain ⟨more, hmore⟩ := ih
    rw [← List.append_assoc, leaders_concat, follow, hmore]
    split
    · exact ⟨more ++ [trace], List.append_assoc ..⟩
    · exact ⟨more, rfl⟩

theorem targets_append (ls as bs : List Trace) :
    r.targets store ids ls (as ++ bs) =
      r.targets store ids ls as ++ r.targets store ids (as.foldl (r.follow store) ls) bs := by
  induction as generalizing ls with
  | nil => rfl
  | cons a as ih => rw [List.cons_append, targets, ih, targets, List.foldl_cons, List.cons_append]

@[simp] theorem length_targets (ls batch : List Trace) :
    (r.targets store ids ls batch).length = batch.length := by
  induction batch generalizing ls with
  | nil => rfl
  | cons trace rest ih => exact congrArg (· + 1) (ih _)

/-- The target of a trace is settled by what comes before it. -/
theorem getElem?_targets (before : List Trace) (trace : Trace) (after : List Trace) :
    (r.targets store ids [] (before ++ trace :: after))[before.length]? =
      some (r.target store ids (r.leaders store before) trace) := by
  rw [targets_append, List.getElem?_append_right (by simp), length_targets, Nat.sub_self]
  rfl

theorem leads_iff {ls : List Trace} {trace : Trace} :
    r.leads store ls trace ↔ Path.normalize trace.path ≠ "" ∧ r.known store trace = none ∧
      trace.isNotFound = false ∧ ∀ l ∈ ls, r.covers l trace = false := by
  simp [leads, and_assoc]

/-- Every leader leads after the leaders before it. -/
theorem leads_of_leaders_eq {batch before after : List Trace} {l : Trace}
    (h : r.leaders store batch = before ++ l :: after) : r.leads store before l := by
  induction batch using List.reverseRecOn generalizing after with
  | nil => simp [leaders] at h
  | append_singleton batch trace ih =>
    rw [leaders_concat, follow] at h
    split at h
    · next hleads =>
      cases after using List.reverseRecOn with
      | nil =>
        obtain ⟨rfl, hl⟩ := List.append_inj' h rfl
        obtain rfl := List.singleton_inj.1 hl
        exact hleads
      | append_singleton after _ =>
        rw [← List.cons_append, ← List.append_assoc] at h
        exact ih (List.append_inj' h rfl).1
    · exact ih h

end Resolver

/-! ## The links of a page -/

/-- The links of traces to their targets. -/
def linksTo (batch : List Trace) (targets : List (Option Uuid)) : List (Uuid × Uuid) :=
  (batch.zip targets).filterMap fun p => p.2.map (p.1.id, ·)

theorem linksTo_concat {batch : List Trace} {targets : List (Option Uuid)}
    (h : batch.length = targets.length) (trace : Trace) (target : Option Uuid) :
    linksTo (batch ++ [trace]) (targets ++ [target]) =
      linksTo batch targets ++ (target.map (trace.id, ·)).toList := by
  rw [linksTo, List.zip_append h, List.filterMap_append, linksTo]
  cases target <;> rfl

/-- The links of the traces of a group. -/
def TraceGroup.links (g : TraceGroup) (id : Uuid) : List (Uuid × Uuid) := g.traceIds.map (·, id)

/-- The links of groups that go to stored endpoints. -/
def matchedLinks (groups : List (Uuid × TraceGroup)) : List (Uuid × Uuid) :=
  groups.flatMap fun p => p.2.links p.1

/-- The links of groups that go to the endpoints of templates. -/
def pendingLinks : (ids : Nat → Uuid) → List PendingEndpoint → List (Uuid × Uuid)
  | _, [] => []
  | ids, p :: rest => p.group.links (ids 0) ++ pendingLinks (fun i => ids (i + 1)) rest

theorem links_add (g : TraceGroup) (trace : Trace) (id : Uuid) :
    (g.add trace).links id = g.links id ++ [(trace.id, id)] := by
  simp [TraceGroup.add, TraceGroup.links]

theorem Uuid.eq_of_compare {a b : Uuid} (h : compare a b = .eq) : a = b := by
  obtain ⟨a⟩ := a
  obtain ⟨b⟩ := b
  exact congrArg Uuid.mk (Fin.ext (Nat.compare_eq_eq.1 h))

/-- A group, or a new one, with one more trace. -/
def TraceGroup.join (trace : Trace) : Option TraceGroup → TraceGroup
  | none => .single trace
  | some g => g.add trace

/-- One more trace in a group is one more link. -/
theorem perm_matchedLinks_alter (id : Uuid) (trace : Trace) (groups : List (Uuid × TraceGroup)) :
    (matchedLinks (Dict.alter id (TraceGroup.join trace) groups)).Perm
      (matchedLinks groups ++ [(trace.id, id)]) := by
  induction groups with
  | nil => exact .refl _
  | cons p groups ih =>
    obtain ⟨key, g⟩ := p
    rw [Dict.alter]
    split
    · exact (List.perm_append_singleton _ _).symm
    · next h =>
      obtain rfl := Uuid.eq_of_compare h
      simp only [matchedLinks, List.flatMap_cons, TraceGroup.join, links_add, List.append_assoc]
      exact .append_left _ List.perm_append_comm
    · simp only [matchedLinks, List.flatMap_cons, List.append_assoc] at ih ⊢
      exact .append_left _ ih

/-- The links of a page, if it is known where the templates go. -/
def SortedPage.links (page : SortedPage) (ids : Nat → Uuid) : List (Uuid × Uuid) :=
  matchedLinks page.matched ++ pendingLinks ids page.pending

/-! ## Templates and their leaders -/

/-- The template is the one that the trace brings up. -/
structure PendingEndpoint.LedBy (policy : IdentifierPolicy) (p : PendingEndpoint) (leader : Trace) :
    Prop where
  host : p.host = leader.host
  method : p.method = leader.method.toUpper
  template : policy.infer (Path.normalize leader.path) = some p.template

namespace PendingEndpoint

variable {r : Resolver} {ps : List PendingEndpoint} {ls : List Trace} {trace : Trace}

/-- The trace as it is sorted: with its method in upper case. -/
def upper (trace : Trace) : Trace := { trace with method := trace.method.toUpper }

/-- The template that a trace brings up. -/
def lead (trace : Trace) (template : PathTemplate) : PendingEndpoint where
  host := trace.host
  method := trace.method
  template := template
  firstTrace := trace
  group := .single trace

theorem LedBy.takes_eq {p : PendingEndpoint} {l : Trace} (h : p.LedBy r.policy l) (trace : Trace) :
    p.takes (upper trace) (Path.normalize trace.path) = r.covers l trace := by
  rw [takes, Resolver.covers, h.host, h.method, h.template]
  rfl

theorem addTo?_eq_none (h : List.Forall₂ (LedBy r.policy) ps ls)
    (hnone : ∀ l ∈ ls, r.covers l trace = false) :
    addTo? (upper trace) (Path.normalize trace.path) ps = none := by
  induction h with
  | nil => rfl
  | cons hp _ ih =>
    rw [addTo?, hp.takes_eq, hnone _ List.mem_cons_self, if_neg Bool.false_ne_true,
      ih fun l hl => hnone l (List.mem_cons_of_mem _ hl)]
    rfl

/-- A trace joins the first leader whose template takes it. -/
theorem exists_addTo? (h : List.Forall₂ (LedBy r.policy) ps ls)
    (hsome : ∃ l ∈ ls, r.covers l trace) :
    ∃ ps', addTo? (upper trace) (Path.normalize trace.path) ps = some ps' ∧
      List.Forall₂ (LedBy r.policy) ps' ls ∧
      ∀ ids, (pendingLinks ids ps').Perm
        (pendingLinks ids ps ++ [(trace.id, ids (ls.findIdx (r.covers · trace)))]) := by
  induction h with
  | nil => simp at hsome
  | @cons p l ps ls hp hps ih =>
    rw [addTo?, hp.takes_eq]
    by_cases hl : r.covers l trace
    · refine ⟨_, if_pos hl, .cons ⟨hp.host, hp.method, hp.template⟩ hps, fun ids => ?_⟩
      rw [pendingLinks, links_add, pendingLinks, List.findIdx_cons, hl, List.append_assoc,
        List.append_assoc]
      exact .append_left _ List.perm_append_comm
    · have hrest : ∃ l ∈ ls, r.covers l trace := by simpa [hl] using hsome
      obtain ⟨ps', hadd, hled, hlinks⟩ := ih hrest
      refine ⟨p :: ps', ?_, .cons hp hled, fun ids => ?_⟩
      · rw [if_neg hl, hadd]
        rfl
      · rw [pendingLinks, pendingLinks, List.findIdx_cons, Bool.eq_false_iff.2 hl,
          List.append_assoc]
        exact .append_left _ (hlinks fun i => ids (i + 1))

theorem pendingLinks_concat (ids : Nat → Uuid) (ps : List PendingEndpoint) (p : PendingEndpoint) :
    pendingLinks ids (ps ++ [p]) = pendingLinks ids ps ++ p.group.links (ids ps.length) := by
  induction ps generalizing ids with
  | nil => simp [pendingLinks]
  | cons q ps ih => simp [pendingLinks, ih]

end PendingEndpoint

/-! ## Pages -/

/-- The page holds the templates of the leaders of the batch, in their order, and its traces. -/
structure SortedPage.Sorts (r : Resolver) (store : MemoryStore) (batch : List Trace)
    (page : SortedPage) : Prop where
  led : List.Forall₂ (PendingEndpoint.LedBy r.policy) page.pending (r.leaders store batch)
  links : ∀ ids, (page.links ids).Perm (linksTo batch (r.targets store ids [] batch))

namespace SortedPage.Sorts

open PendingEndpoint

variable {r : Resolver} {store : MemoryStore} {batch : List Trace} {page page' : SortedPage}
  {trace : Trace}

theorem empty (r : Resolver) (store : MemoryStore) : ({} : SortedPage).Sorts r store [] :=
  ⟨.nil, fun _ => .refl _⟩

/-- A page with one more trace. -/
theorem concat (h : page.Sorts r store batch)
    (hled : List.Forall₂ (LedBy r.policy) page'.pending
      (r.follow store (r.leaders store batch) trace))
    (hlinks : ∀ ids, (page'.links ids).Perm (page.links ids ++
      ((r.target store ids (r.leaders store batch) trace).map (trace.id, ·)).toList)) :
    page'.Sorts r store (batch ++ [trace]) := by
  refine ⟨by rwa [Resolver.leaders_concat], fun ids => ?_⟩
  rw [Resolver.targets_append, Resolver.targets, Resolver.targets,
    linksTo_concat (Resolver.length_targets ..).symm]
  exact (hlinks ids).trans ((h.links ids).append_right _)

/-- A trace without a target leaves the page as it is. -/
theorem skip (h : page.Sorts r store batch)
    (htarget : ∀ ids, r.target store ids (r.leaders store batch) trace = none)
    (hleads : ¬ r.leads store (r.leaders store batch) trace) :
    page.Sorts r store (batch ++ [trace]) := by
  refine h.concat ?_ fun ids => ?_
  · rw [Resolver.follow, if_neg hleads]
    exact h.led
  · simp [htarget]

/-- A trace that goes to a stored endpoint. -/
theorem join_matched (h : page.Sorts r store batch) (hpath : Path.normalize trace.path ≠ "")
    {e : Endpoint} (hknown : r.known store trace = some e) :
    ({ page with matched := Dict.alter e.id (TraceGroup.join (upper trace)) page.matched }).Sorts
      r store (batch ++ [trace]) := by
  refine h.concat ?_ fun ids => ?_
  · rw [Resolver.follow, if_neg (by simp [Resolver.leads_iff, hknown])]
    exact h.led
  · have htarget : r.target store ids (r.leaders store batch) trace = some e.id := by
      simp [Resolver.target, hpath, hknown]
    rw [htarget, SortedPage.links, SortedPage.links, List.append_assoc]
    refine ((perm_matchedLinks_alter e.id (upper trace) page.matched).append_right _).trans ?_
    rw [List.append_assoc]
    exact .append_left _ List.perm_append_comm

theorem target_of_unknown (hpath : Path.normalize trace.path ≠ "")
    (hknown : r.known store trace = none) (hmissing : trace.isNotFound = false) (ids : Nat → Uuid)
    (ls : List Trace) :
    r.target store ids ls trace = some (ids (ls.findIdx (r.covers · trace))) := by
  simp [Resolver.target, hpath, hknown, hmissing]

/-- A trace that follows a leader. -/
theorem join_pending (h : page.Sorts r store batch) (hpath : Path.normalize trace.path ≠ "")
    (hknown : r.known store trace = none) (hmissing : trace.isNotFound = false)
    (hsome : ∃ l ∈ r.leaders store batch, r.covers l trace) :
    ∃ pending, addTo? (upper trace) (Path.normalize trace.path) page.pending = some pending ∧
      ({ page with pending }).Sorts r store (batch ++ [trace]) := by
  obtain ⟨pending, hadd, hled, hlinks⟩ := exists_addTo? h.led hsome
  refine ⟨pending, hadd, h.concat ?_ fun ids => ?_⟩
  · have hleads : ¬ r.leads store (r.leaders store batch) trace := by
      simpa [Resolver.leads_iff, hpath, hknown, hmissing] using hsome
    rw [Resolver.follow, if_neg hleads]
    exact hled
  · rw [target_of_unknown hpath hknown hmissing, SortedPage.links, SortedPage.links,
      List.append_assoc]
    exact .append_left _ (hlinks ids)

/-- A trace that becomes a leader. -/
theorem lead (h : page.Sorts r store batch) (hleads : r.leads store (r.leaders store batch) trace)
    {template : PathTemplate}
    (hinfer : r.policy.infer (Path.normalize trace.path) = some template) :
    ({ page with pending := page.pending ++ [PendingEndpoint.lead (upper trace) template] }).Sorts
      r store (batch ++ [trace]) := by
  obtain ⟨hpath, hknown, hmissing, hnone⟩ := Resolver.leads_iff.1 hleads
  refine h.concat ?_ fun ids => ?_
  · rw [Resolver.follow, if_pos hleads]
    exact List.rel_append h.led (.cons ⟨rfl, rfl, hinfer⟩ .nil)
  · have hindex : (r.leaders store batch).findIdx (r.covers · trace) = page.pending.length := by
      rw [h.led.length_eq]
      exact List.findIdx_eq_length_of_false hnone
    rw [target_of_unknown hpath hknown hmissing, hindex, SortedPage.links, SortedPage.links,
      pendingLinks_concat, List.append_assoc]
    exact .refl _

end SortedPage.Sorts

/-! ## The program that sorts -/

theorem IdentifierPolicy.infer_ne_none {policy : IdentifierPolicy} {path : String}
    (h : Path.normalize path ≠ "") : policy.infer (Path.normalize path) ≠ none := by
  rw [infer, Path.normalize_normalize]
  simp only [String.isEmpty_iff, h, if_false]
  split <;> simp

namespace Service

open PendingEndpoint SortedPage.Sorts

variable {s : Service} {c : ConnectionId} {t : Tenant} {store : MemoryStore} {batch : List Trace}
  {trace : Trace} {page : SortedPage}

/-- A trace that no stored endpoint takes is skipped, follows a leader or becomes one. -/
theorem sorts_sortPending (h : page.Sorts s.resolver store batch)
    (hpath : Path.normalize trace.path ≠ "") (hknown : s.resolver.known store trace = none)
    (report : BackfillReport) :
    (s.sortPending (upper trace) (Path.normalize trace.path) page report).1.Sorts s.resolver store
      (batch ++ [trace]) := by
  have hupper : (upper trace).isNotFound = trace.isNotFound := rfl
  rw [sortPending, hupper]
  split
  · next hmissing =>
    refine h.skip (fun ids => ?_) ?_
    · simp [Resolver.target, hknown, hmissing]
    · simp [Resolver.leads_iff, hmissing]
  next hmissing =>
  rw [Bool.not_eq_true] at hmissing
  by_cases hsome : ∃ l ∈ s.resolver.leaders store batch, s.resolver.covers l trace
  · obtain ⟨pending, hadd, hsorts⟩ := h.join_pending hpath hknown hmissing hsome
    rw [hadd]
    exact hsorts
  · have hnone : ∀ l ∈ s.resolver.leaders store batch, s.resolver.covers l trace = false := by
      simpa using hsome
    obtain ⟨template, hinfer⟩ :=
      Option.ne_none_iff_exists'.1 (s.resolver.policy.infer_ne_none hpath)
    rw [addTo?_eq_none h.led hnone, hinfer]
    exact h.lead (Resolver.leads_iff.2 ⟨hpath, hknown, hmissing, hnone⟩) hinfer

theorem performs_sortTrace (hr : s.resolver.store = .memory) (h : page.Sorts s.resolver store batch)
    (report : BackfillReport) :
    Performs c store (s.sortTrace t trace page report) fun p store' works =>
      p.1.Sorts s.resolver store (batch ++ [trace]) ∧ store' = store ∧ works = [] := by
  rw [sortTrace]
  dsimp only
  split
  · next hempty =>
    have hpath : Path.normalize trace.path = "" := by simpa using hempty
    refine performs_pure ⟨h.skip (fun ids => ?_) ?_, rfl, rfl⟩
    · simp [Resolver.target, hpath]
    · simp [Resolver.leads_iff, hpath]
  next hpath =>
  have hpath : Path.normalize trace.path ≠ "" := by simpa using hpath
  refine (s.resolver.performs_find hr ..).outcome.bind ?_
  rintro _ store _ ⟨found, rfl, hfound, rfl, rfl⟩
  cases found with
  | some e => exact performs_pure ⟨h.join_matched hpath hfound.symm, rfl, rfl⟩
  | none => exact performs_pure ⟨sorts_sortPending h hpath hfound.symm report, rfl, rfl⟩

/-- **How a batch is sorted**, if nothing fails. -/
theorem performs_sort (hr : s.resolver.store = .memory) (report : BackfillReport)
    (batch : List Trace) :
    Performs c store (s.sort t {} report batch) fun p store' works =>
      p.1.Sorts s.resolver store batch ∧ store' = store ∧ works = [] := by
  have hrun : ∀ (rest before : List Trace) (page : SortedPage) (report : BackfillReport),
      page.Sorts s.resolver store before →
      Performs c store (s.sort t page report rest) fun p store' works =>
        p.1.Sorts s.resolver store (before ++ rest) ∧ store' = store ∧ works = [] := by
    intro rest
    induction rest with
    | nil =>
      intro before page report h
      rw [List.append_nil]
      exact performs_pure ⟨h, rfl, rfl⟩
    | cons trace rest ih =>
      intro before page report h
      refine (performs_sortTrace hr h report).bind ?_
      rintro ⟨page, report⟩ store _ ⟨h, rfl, rfl⟩
      rw [List.append_cons]
      exact ih (before ++ [trace]) page report h
  exact hrun batch [] {} report (.empty ..)

end Service

end TrafficLens
