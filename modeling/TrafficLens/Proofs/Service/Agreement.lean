import TrafficLens.Proofs.Service.Linking

/-!
# Where batches and live calls agree

A trace can get its endpoint from a live call of the resolver, which looks in the store as it is
then, or with a batch, which looks in the store as it was before the batch and at the templates of
the batch. Of several endpoints whose patterns match, a live call takes one with the fewest
placeholders; a batch takes what was stored before, and then the first template. So the two can link
a trace differently (`exists_batch_disagrees`).

What a batch does is told by live calls all the same (`linkPage_agrees`). The leaders of the batch
are linked to what is answered if they alone are resolved one at a time, and the traces that follow
a leader are linked to what that one is. And a trace for which the look-up of the live call finds
what the batch goes by is linked to what is answered for it when the whole batch is resolved one at
a time. Both rest on keys: either way, a leader gets an endpoint with the key of its template
(`Placed.keys`, `foretell_of_leads`).
-/

namespace TrafficLens

open Attempt Ledger

/-! ## Keys of templates -/

namespace Resolver

variable {r : Resolver} {store s s' : MemoryStore}

/-- The key of the template that a trace brings up. -/
def templateKey (r : Resolver) (trace : Trace) : Option (String × String × String) :=
  (r.policy.infer (Path.normalize trace.path)).map fun template =>
    (trace.host, trace.method.toUpper, template.path)

/-- The endpoint of a template has its key, whether it is new or was there. -/
theorem key_of_made {id : Uuid} {host method : String} (hmethod : method.toUpper = method)
    {template : PathTemplate} {e : Endpoint} {isNew : Bool}
    (h : made s id host method template = (.resolved e isNew, s')) :
    e.key = (host, method, template.path) := by
  rw [made] at h
  split at h
  · next f hfound =>
    cases h
    exact Endpoint.hasKey_iff_key.1 (MemoryStore.of_findExact hfound).2
  · cases h
    rw [Endpoint.key, Endpoint.ofTemplate, hmethod]

theorem exists_made (s : MemoryStore) (id : Uuid) (host method : String) (template : PathTemplate) :
    ∃ e isNew s', made s id host method template = (.resolved e isNew, s') := by
  rw [made]
  split <;> exact ⟨_, _, _, rfl⟩

end Resolver

namespace Placed

variable {r : Resolver} {s s' : MemoryStore} {pending : List PendingEndpoint} {es : List Endpoint}

/-- The templates of leaders become endpoints with their keys. -/
theorem keys {ls : List Trace} (h : Placed s pending es s')
    (hled : List.Forall₂ (PendingEndpoint.LedBy r.policy) pending ls) :
    List.Forall₂ (fun l e => r.templateKey l = some (Endpoint.key e)) ls es := by
  induction h generalizing ls with
  | nil =>
    cases hled
    exact .nil
  | cons id hmade _ ih =>
    obtain ⟨l, ls, hl, hls, rfl⟩ := List.forall₂_cons_left_iff.1 hled
    refine .cons ?_ (ih hls)
    rw [Resolver.templateKey, hl.template, Resolver.key_of_made hl.toUpper_method hmade, hl.host,
      hl.method]
    rfl

end Placed

/-! ## Live calls for leaders -/

namespace Resolver

variable {r : Resolver} {store s : MemoryStore} {id : Uuid} {trace : Trace}

theorem mem_of_known {e : Endpoint} (h : r.known s trace = some e) : e ∈ s :=
  (MemoryStore.of_findMatch (Option.eq_some_of_filter_eq_some h)).1

/-- A trace that no stored endpoint takes gets the endpoint of its template. -/
theorem answer_of_unknown (hpath : Path.normalize trace.path ≠ "") (hknown : r.known s trace = none)
    (hmissing : trace.isNotFound = false) :
    ∃ e isNew, (r.answer s id trace).1 = .resolved e isNew ∧ r.templateKey trace = some e.key := by
  obtain ⟨template, hinfer⟩ := Option.ne_none_iff_exists'.1 (r.policy.infer_ne_none hpath)
  obtain ⟨e, isNew, s', hmade⟩ := exists_made s id trace.host trace.method.toUpper template
  refine ⟨e, isNew, ?_, ?_⟩
  · rw [known] at hknown
    simp [answer, hpath, hknown, hmissing, hinfer, hmade]
  · rw [templateKey, hinfer, key_of_made (toUpper_toUpper _) hmade]
    rfl

theorem answer_of_known (hpath : Path.normalize trace.path ≠ "") {e : Endpoint}
    (hknown : r.known s trace = some e) : (r.answer s id trace).1 = .resolved e false := by
  rw [known] at hknown
  simp [answer, hpath, hknown]

theorem answer_of_missing (hknown : r.known s trace = none) (hmissing : trace.isNotFound) :
    (r.answer s id trace).1 = .unresolvable := by
  rw [known] at hknown
  simp [answer, hknown, hmissing]

theorem answer_of_empty (hpath : Path.normalize trace.path = "") :
    (r.answer s id trace).1 = .unresolvable := by
  simp [answer, hpath]

/-- A call stores the endpoint of its template, or nothing. -/
theorem store_answer (r : Resolver) (s : MemoryStore) (id : Uuid) (trace : Trace) :
    (r.answer s id trace).2 = s ∨
      ∃ template, r.policy.infer (Path.normalize trace.path) = some template ∧
        (r.answer s id trace).2 =
          s ++ [.ofTemplate id trace.host trace.method.toUpper template] := by
  rw [answer]
  split
  · exact .inl rfl
  split
  · exact .inl rfl
  split
  · exact .inl rfl
  split
  · next template hinfer =>
    rw [made]
    split
    · exact .inl rfl
    · exact .inr ⟨template, hinfer, rfl⟩
  · exact .inl rfl

/-- The endpoint has the template that the trace brings up. -/
def Brings (r : Resolver) (l : Trace) (e : Endpoint) : Prop :=
  ∃ id template, r.policy.infer (Path.normalize l.path) = some template ∧
    e = .ofTemplate id l.host l.method.toUpper template

theorem exists_foresee (r : Resolver) (s : MemoryStore) (traces : List Trace) :
    ∃ new, r.foresee s traces = s ++ new ∧ ∀ e ∈ new, ∃ l ∈ traces, r.Brings l e := by
  induction traces generalizing s with
  | nil => exact ⟨[], (List.append_nil s).symm, by simp⟩
  | cons trace rest ih =>
    rw [foresee_cons]
    obtain ⟨new, hnew, hbrings⟩ := ih (r.answer s .nil trace).2
    have hrest : ∀ e ∈ new, ∃ l ∈ trace :: rest, r.Brings l e := fun e he => by
      obtain ⟨l, hl, hle⟩ := hbrings e he
      exact ⟨l, List.mem_cons_of_mem _ hl, hle⟩
    rcases r.store_answer s .nil trace with hstore | ⟨template, hinfer, hstore⟩
    · exact ⟨new, hnew.trans (by rw [hstore]), hrest⟩
    · refine ⟨_ :: new, hnew.trans (by rw [hstore, List.append_assoc]; rfl), ?_⟩
      refine List.forall_mem_cons.2 ⟨⟨trace, List.mem_cons_self, ?_⟩, hrest⟩
      exact ⟨.nil, template, hinfer, rfl⟩

/-- Endpoints that other traces bring up are not found for a trace that these do not cover. -/
theorem known_foresee {ls : List Trace} (h : ∀ l ∈ ls, r.covers l trace = false) :
    r.known (r.foresee store ls) trace = r.known store trace := by
  obtain ⟨new, hnew, hbrings⟩ := r.exists_foresee store ls
  have hnone : new.filter (fun e => e.host == trace.host && e.method == trace.method.toUpper &&
      Pattern.isMatch e.pathPattern (Path.normalize trace.path)) = [] := by
    rw [List.filter_eq_nil_iff]
    intro e he
    obtain ⟨l, hl, id, template, hinfer, rfl⟩ := hbrings e he
    have hcovers := h l hl
    rw [covers, hinfer] at hcovers
    rw [Endpoint.ofTemplate, toUpper_toUpper]
    exact Bool.eq_false_iff.1 hcovers
  rw [known, known, accepted, accepted, MemoryStore.findMatch, MemoryStore.findMatch, hnew,
    List.filter_append, hnone, List.append_nil]

/-- **What a leader is answered**, after the leaders before it: the endpoint of its template. -/
theorem foretell_of_leads {ls : List Trace} (h : r.leads store ls trace) :
    ∃ e isNew, r.foretell store ls trace = .resolved e isNew ∧
      r.templateKey trace = some e.key := by
  obtain ⟨hpath, hknown, hmissing, hnone⟩ := leads_iff.1 h
  exact answer_of_unknown hpath ((known_foresee hnone).trans hknown) hmissing

/-- A trace that goes by templates has a leader: the first one that covers it, or itself. -/
theorem exists_leader (before after : List Trace) (hpath : Path.normalize trace.path ≠ "")
    (hknown : r.known store trace = none) (hmissing : trace.isNotFound = false) :
    ∃ l, (r.leaders store (before ++ trace :: after))[
        (r.leaders store before).findIdx (r.covers · trace)]? = some l ∧
      ((r.leaders store before).find? (r.covers · trace) = some l ∨
        (r.leaders store before).find? (r.covers · trace) = none ∧ l = trace) := by
  cases hfind : (r.leaders store before).find? (r.covers · trace) with
  | some l =>
    obtain ⟨more, hmore⟩ := r.exists_leaders_append store before (trace :: after)
    rw [List.find?_eq_getElem?_findIdx] at hfind
    refine ⟨l, ?_, .inl rfl⟩
    rw [hmore, List.getElem?_append_left (List.getElem?_eq_some_iff.1 hfind).1, hfind]
  | none =>
    have hnone : ∀ l ∈ r.leaders store before, r.covers l trace = false := by
      simpa using List.find?_eq_none.1 hfind
    have hleads : r.leads store (r.leaders store before) trace :=
      leads_iff.2 ⟨hpath, hknown, hmissing, hnone⟩
    obtain ⟨more, hmore⟩ := r.exists_leaders_append store (before ++ [trace]) after
    refine ⟨trace, ?_, .inr ⟨rfl, rfl⟩⟩
    rw [List.append_cons, hmore, leaders_concat, follow, if_pos hleads, List.append_assoc,
      List.findIdx_eq_length_of_false hnone, List.getElem?_append_right le_rfl, Nat.sub_self]
    rfl

end Resolver

/-! ## Where batches and live calls agree -/

/-- The trace is linked to the endpoint that was answered, or to none if there can be none. -/
def Agrees (store : MemoryStore) : Option Uuid → Resolution → Prop
  | some id, .resolved e _ => ∃ f ∈ store, f.id = id ∧ f.key = e.key
  | none, .unresolvable => True
  | _, _ => False

/-- Identifiers make no difference to an agreement. -/
theorem agrees_of_anonymous {store : MemoryStore} {target : Option Uuid} {x y : Resolution}
    (h : x.anonymous = y.anonymous) (hy : Agrees store target y) : Agrees store target x := by
  cases target with
  | none =>
    cases y with
    | unresolvable => cases x <;> first | exact hy | cases h
    | _ => cases hy
  | some id =>
    cases y with
    | resolved e' isNew' =>
      cases x with
      | resolved e isNew =>
        obtain ⟨f, hf, hid, hkey⟩ := hy
        have hkeys : e.anonymous.key = e'.anonymous.key :=
          congrArg Endpoint.key (Resolution.resolved.inj h).1
        exact ⟨f, hf, hid, hkey.trans hkeys.symm⟩
      | _ => cases h
    | _ => cases hy

namespace Resolver

variable {r : Resolver} {store : MemoryStore}

/-- What is promised for a trace of a batch, when `answers` are those for its leaders, resolved one
at a time. A trace that a stored endpoint takes is linked to that endpoint, a trace that goes by
templates is linked to what is answered for its leader, and others are not linked. Nothing is said
about a trace that says "not found" and is taken by the template of a leader only. -/
def Settles (r : Resolver) (store store' : MemoryStore) (answers : List Resolution)
    (leaders : List Trace) (trace : Trace) (target : Option Uuid) : Prop :=
  if Path.normalize trace.path = "" then target = none
  else
    match r.known store trace with
    | some e => target = some e.id
    | none =>
      if trace.isNotFound then (∀ l ∈ leaders, r.covers l trace = false) → target = none
      else
        ∃ x, answers[leaders.findIdx (r.covers · trace)]? = some x ∧ Agrees store' target x

/-- The look-up for a trace, after the traces before it were resolved one at a time, finds what the
batch goes by: the stored endpoint, or else the first template of the batch that takes the trace. -/
structure Undisputed (r : Resolver) (store : MemoryStore) (before : List Trace) (trace : Trace) :
    Prop where
  lookup : (r.known (r.foresee store before) trace).map Endpoint.key =
    ((r.known store trace).map Endpoint.key).or
      (((r.leaders store before).find? (r.covers · trace)).bind r.templateKey)
  found : trace.isNotFound → r.known store trace = none →
    ∀ l ∈ r.leaders store before, r.covers l trace = false

/-- The endpoint of a leader, and its key. -/
theorem exists_placed {batch : List Trace} {pending : List PendingEndpoint} {es : List Endpoint}
    {store' : MemoryStore}
    (hled : List.Forall₂ (PendingEndpoint.LedBy r.policy) pending (r.leaders store batch))
    (hplaced : Placed store pending es store') {i : Nat} {l : Trace}
    (hl : (r.leaders store batch)[i]? = some l) :
    ∃ e ∈ store', endpointIds es i = e.id ∧ r.templateKey l = some e.key := by
  obtain ⟨hlength, hkeys⟩ := List.forall₂_iff_get.1 (hplaced.keys hled)
  obtain ⟨hi, rfl⟩ := List.getElem?_eq_some_iff.1 hl
  have hi' : i < es.length := hlength ▸ hi
  refine ⟨es[i], hplaced.mem (List.getElem_mem hi'), ?_, hkeys i hi hi'⟩
  rw [endpointIds, List.getElem?_eq_getElem hi']
  rfl

/-- What a leader is answered by the calls for all leaders. -/
theorem exists_answer_of_leader {batch : List Trace} {answers : List Resolution}
    {store' : MemoryStore} (h : r.Answered store (r.leaders store batch) answers store') {i : Nat}
    {l : Trace} (hl : (r.leaders store batch)[i]? = some l) :
    ∃ x e isNew, answers[i]? = some x ∧ x.anonymous = (Resolution.resolved e isNew).anonymous ∧
      r.templateKey l = some e.key := by
  obtain ⟨hi, rfl⟩ := List.getElem?_eq_some_iff.1 hl
  have hsplit : r.leaders store batch = (r.leaders store batch).take i ++
      (r.leaders store batch)[i] :: (r.leaders store batch).drop (i + 1) := by
    rw [List.getElem_cons_drop, List.take_append_drop]
  obtain ⟨e, isNew, hforetell, hkey⟩ := foretell_of_leads (leads_of_leaders_eq hsplit)
  rw [hsplit] at h
  obtain ⟨x, hx, hanonymous⟩ := h.foretell rfl
  rw [List.length_take_of_le hi.le] at hx
  exact ⟨x, e, isNew, hx, hanonymous.trans (by rw [hforetell]), hkey⟩

section Positions

variable {before after : List Trace} {trace : Trace} {pending : List PendingEndpoint}
  {es : List Endpoint} {store' : MemoryStore}
  (hled : List.Forall₂ (PendingEndpoint.LedBy r.policy) pending
    (r.leaders store (before ++ trace :: after)))
  (hplaced : Placed store pending es store')

include hled hplaced

/-- The target of a trace is as promised. -/
theorem settles_target {answers : List Resolution} {store₁ : MemoryStore}
    (hanswers : r.Answered store (r.leaders store (before ++ trace :: after)) answers store₁) :
    r.Settles store store' answers (r.leaders store before) trace
      (r.target store (endpointIds es) (r.leaders store before) trace) := by
  rw [Settles, target]
  by_cases hpath : Path.normalize trace.path = ""
  · simp [hpath]
  rw [if_neg hpath, if_neg (by simpa using hpath)]
  cases hknown : r.known store trace with
  | some e => rfl
  | none =>
    dsimp only
    split
    · exact fun _ => rfl
    next hmissing =>
    rw [Bool.not_eq_true] at hmissing
    obtain ⟨l, hl, -⟩ := exists_leader before after hpath hknown hmissing
    obtain ⟨e, he, hid, hkey⟩ := exists_placed hled hplaced hl
    obtain ⟨x, e', isNew, hx, hanonymous, hkey'⟩ := exists_answer_of_leader hanswers hl
    have hkeys : e.key = e'.key := Option.some.inj (hkey.symm.trans hkey')
    exact ⟨x, hx, agrees_of_anonymous hanonymous ⟨e, he, hid.symm, hkeys⟩⟩

/-- The target of a trace whose look-up is undisputed is what is answered for the trace. -/
theorem agrees_foretell (h : r.Undisputed store before trace) :
    Agrees store' (r.target store (endpointIds es) (r.leaders store before) trace)
      (r.foretell store before trace) := by
  by_cases hpath : Path.normalize trace.path = ""
  · rw [foretell, answer_of_empty hpath, target, hpath]
    trivial
  cases hknown : r.known store trace with
  | some e =>
    obtain ⟨hlookup, -⟩ := h
    rw [hknown, Option.map_some, Option.some_or, Option.map_eq_some_iff] at hlookup
    obtain ⟨d, hd, hkey⟩ := hlookup
    rw [foretell, answer_of_known hpath hd, target, if_neg (by simpa using hpath), hknown]
    exact ⟨e, hplaced.subset (mem_of_known hknown), rfl, hkey.symm⟩
  | none =>
    obtain ⟨hlookup, hfound⟩ := h
    rw [hknown, Option.map_none, Option.none_or] at hlookup
    cases hmissing : trace.isNotFound with
    | true =>
      have hnone : (r.leaders store before).find? (r.covers · trace) = none := by
        simpa using hfound hmissing hknown
      rw [hnone, Option.bind_none, Option.map_eq_none_iff] at hlookup
      rw [foretell, answer_of_missing hlookup hmissing, target, if_neg (by simpa using hpath),
        hknown, hmissing]
      trivial
    | false =>
      rw [SortedPage.Sorts.target_of_unknown hpath hknown hmissing]
      obtain ⟨l, hl, hfirst⟩ := exists_leader before after hpath hknown hmissing
      obtain ⟨e, he, hid, hkey⟩ := exists_placed hled hplaced hl
      rcases hfirst with hfirst | ⟨hfirst, rfl⟩
      · rw [hfirst, Option.bind_some, hkey, Option.map_eq_some_iff] at hlookup
        obtain ⟨d, hd, hkey'⟩ := hlookup
        rw [foretell, answer_of_known hpath hd]
        exact ⟨e, he, hid.symm, hkey'.symm⟩
      · rw [hfirst, Option.bind_none, Option.map_eq_none_iff] at hlookup
        obtain ⟨d, isNew, hd, hkey'⟩ := answer_of_unknown hpath hlookup hmissing
        rw [foretell, hd]
        exact ⟨e, he, hid.symm, Option.some.inj (hkey.symm.trans hkey')⟩

end Positions

end Resolver

namespace Service

variable {s : Service} {c : ConnectionId} {t : Tenant} {store : MemoryStore}

/-- **Where batches and live calls agree.** If nothing fails then a batch links each of its traces
to one target or to none. A trace that an endpoint takes which was stored before is linked to it. A
trace that goes by templates is linked to the endpoint that is answered for its leader, when the
leaders alone are resolved one at a time in the order of the batch. A trace with an empty path is
not linked, and neither is one that says "not found", unless perhaps the template of a leader takes
it.

If the look-up for a trace is undisputed when all traces of the batch are resolved one at a time,
then the trace is linked to the endpoint that is answered for it there, and it is not linked exactly
if there can be no endpoint for it. -/
theorem linkPage_agrees (hr : s.resolver.store = .memory) (report : BackfillReport)
    (batch : List Trace) {es es₁ es₂ : List Event} {x : Except Failure BackfillReport}
    {x₁ x₂ : Except Failure (List Resolution)}
    (hy : (s.linkPage c t report batch).Yields es x) (hes : store.Smooth es)
    (hy₁ : (s.resolver.resolveAll t (s.resolver.leaders store batch)).Yields es₁ x₁)
    (hes₁ : store.Smooth es₁)
    (hy₂ : (s.resolver.resolveAll t batch).Yields es₂ x₂) (hes₂ : store.Smooth es₂) :
    ∃ report' leaderAnswers answers targets,
      x = .ok report' ∧ x₁ = .ok leaderAnswers ∧ x₂ = .ok answers ∧
      targets.length = batch.length ∧
      (committedLinks (Ledger.after c {} es).committed).Perm (linksTo batch targets) ∧
      ∀ before trace after, batch = before ++ trace :: after → ∃ target answer,
        targets[before.length]? = some target ∧ answers[before.length]? = some answer ∧
        s.resolver.Settles store (store.after es) leaderAnswers (s.resolver.leaders store before)
          trace target ∧
        (s.resolver.Undisputed store before trace → Agrees (store.after es) target answer) := by
  obtain ⟨report', works, rfl, ⟨pending, placed, hled, hplaced, hlinks⟩, hafter⟩ :=
    performs_linkPage hr report batch hy hes
  obtain ⟨leaderAnswers, _, rfl, ⟨hleaders, -⟩, -⟩ :=
    s.resolver.performs_resolveAll (c := c) hr _ hy₁ hes₁
  obtain ⟨answers, _, rfl, ⟨hanswers, -⟩, -⟩ :=
    s.resolver.performs_resolveAll (c := c) hr _ hy₂ hes₂
  have hcommitted : (Ledger.after c {} es).committed = works := by
    rw [hafter []]
    simp [committed]
  refine ⟨report', leaderAnswers, answers,
    s.resolver.targets store (endpointIds placed) [] batch, rfl, rfl, rfl,
    Resolver.length_targets .., by rwa [hcommitted], ?_⟩
  rintro before trace after rfl
  obtain ⟨answer, hanswer, hforetell⟩ := hanswers.foretell rfl
  exact ⟨_, answer, Resolver.getElem?_targets .., hanswer,
    Resolver.settles_target hled hplaced hleaders,
    fun h => agrees_of_anonymous hforetell (Resolver.agrees_foretell hled hplaced h)⟩

end Service

/-! ### Batches, with a clerk -/

/-- A batch of traces of some paths. -/
def plainBatch (paths : List String) : List Trace :=
  paths.mapIdx fun i path => .bare (.ofNat (i + 1)) ⟨0, 0⟩ "api.local" "GET" path 200

/-- The transcript of a batch that is linked. -/
def linkTranscript (store : MemoryStore) (batch : List Trace) : List Event :=
  ({ store } : Clerk).transcript (Service.plain.linkPage 0 .standard {} batch)

/-- The transcript of traces that are resolved. -/
def resolveTranscript (store : MemoryStore) (traces : List Trace) : List Event :=
  ({ store } : Clerk).transcript (Service.plain.resolver.resolveAll .standard traces)

/-- The third trace has the template of the first one, and is linked to what live calls answer. -/
theorem linkPage_agrees_plain :
    let batch := plainBatch ["/users/1", "/health", "/users/2"]
    ∃ targets answer target, targets.length = 3 ∧
      (committedLinks (Ledger.after 0 {} (linkTranscript [] batch)).committed).Perm
        (linksTo batch targets) ∧
      targets[2]? = some target ∧
      (({} : Clerk).attend (Service.plain.resolver.resolveAll .standard batch)).1.toOption.bind
        (·[2]?) = some answer ∧
      Agrees (MemoryStore.after [] (linkTranscript [] batch)) target answer := by
  intro batch
  let clerk : Clerk := {}
  obtain ⟨_, _, answers, targets, -, -, hanswers, hlength, hlinks, htraces⟩ :=
    Service.linkPage_agrees (s := .plain) (c := 0) (t := .standard) rfl {} batch
      (clerk.yields_transcript _) (clerk.smooth_transcript rfl _) (clerk.yields_transcript _)
      (clerk.smooth_transcript rfl _) (clerk.yields_transcript _) (clerk.smooth_transcript rfl _)
  obtain ⟨target, answer, htarget, hanswer, -, hagrees⟩ :=
    htraces (batch.take 2) (batch[2]) [] rfl
  refine ⟨targets, answer, target, hlength, hlinks, htarget, ?_, hagrees ⟨?_, ?_⟩⟩
  · rw [hanswers]
    exact hanswer
  · decide +kernel
  · decide +kernel

/-- An endpoint with two placeholders. -/
def wideEndpoint : Endpoint :=
  .ofTemplate (.ofNat 9) "api.local" "GET"
    ⟨"/\x7bparam1\x7d/\x7bparam2\x7d/c", "^/[^/]+/[^/]+/c(/)*$", 2, false⟩

/-- The endpoint that the first trace of the batch below brings up, with one placeholder. -/
def narrowEndpoint : Endpoint :=
  .ofTemplate (.ofNat 0) "api.local" "GET"
    ⟨"/x/y/\x7bparam1\x7d", "^/x/y/[^/]+(/)*$", 1, false⟩

/-- Live calls answer the second trace of a batch with the endpoint that the first one made, since
it has fewer placeholders. The batch links it to the endpoint that was stored before. -/
theorem exists_batch_disagrees :
    ∃ (store : MemoryStore) (batch : List Trace) (es es₂ : List Event) (report : BackfillReport)
      (answers : List Resolution),
      (Service.plain.linkPage 0 .standard {} batch).Yields es (.ok report) ∧ store.Smooth es ∧
      (Service.plain.resolver.resolveAll .standard batch).Yields es₂ (.ok answers) ∧
      store.Smooth es₂ ∧
      ¬ ∃ targets, (committedLinks (Ledger.after 0 {} es).committed).Perm (linksTo batch targets) ∧
        List.Forall₂ (Agrees (store.after es)) targets answers := by
  let store : MemoryStore := [wideEndpoint]
  let batch := plainBatch ["/x/y/7", "/x/y/c"]
  let clerk : Clerk := { store }
  let link := Service.plain.linkPage 0 .standard {} batch
  let resolve := Service.plain.resolver.resolveAll .standard batch
  have hreport : (clerk.attend link).1 = .ok ⟨0, 2, 0, 0, 1, 0⟩ := by decide +kernel
  have hanswers : (clerk.attend resolve).1 =
      .ok [.resolved narrowEndpoint true, .resolved narrowEndpoint false] := by decide +kernel
  refine ⟨store, batch, linkTranscript store batch, resolveTranscript store batch, _, _,
    hreport ▸ clerk.yields_transcript link, clerk.smooth_transcript rfl link,
    hanswers ▸ clerk.yields_transcript resolve, clerk.smooth_transcript rfl resolve, ?_⟩
  rintro ⟨targets, hperm, hagrees⟩
  have hlinked : (Uuid.ofNat 2, Uuid.ofNat 9) ∈
      committedLinks (Ledger.after 0 {} (linkTranscript store batch)).committed := by
    decide +kernel
  have hkeys : ∀ f ∈ store.after (linkTranscript store batch), f.id = .ofNat 9 →
      f.key ≠ narrowEndpoint.key := by
    decide +kernel
  obtain ⟨first, _, -, hrest, rfl⟩ := List.forall₂_cons_right_iff.1 hagrees
  obtain ⟨second, _, hsecond, hnil, rfl⟩ := List.forall₂_cons_right_iff.1 hrest
  obtain rfl := List.forall₂_nil_right_iff.1 hnil
  cases second with
  | none => cases hsecond
  | some id =>
    obtain ⟨f, hf, hid, hkey⟩ := hsecond
    have hmem : (Uuid.ofNat 2, Uuid.ofNat 9) ∈ first.toList.map (Uuid.ofNat 1, ·) ++
        [(Uuid.ofNat 2, id)] := by
      have h := hperm.mem_iff.1 hlinked
      cases first <;> exact h
    obtain rfl : Uuid.ofNat 9 = id := by simpa [Uuid.ofNat] using hmem
    exact hkeys f hf hid hkey

end TrafficLens
