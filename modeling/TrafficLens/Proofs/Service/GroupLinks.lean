import TrafficLens.Proofs.Program.Tries
import TrafficLens.Proofs.Service.Grouping

/-!
# What is sent for a group

A group of a page is linked in a transaction of its own, after its template has become an endpoint
if it goes to one (`Service.Links`). Whatever the database replies, the statements that link traces
and widen dates are those of the group (`Service.Links.eq_of_mem_linksSent`,
`Service.Links.eq_of_mem_datesSent`), and nothing that is asked before the transaction is such a
statement. Statements count as sent when they are asked for, also if they are refused and tried
again.

That a statement is sent at all needs levels that can be opened (`Opens`), for a step is run inside
a level, and that the endpoint is the right one needs lookups that find what they ask for
(`FindsAsAsked`).
-/

namespace TrafficLens

open Attempt

/-! ## Statements about groups -/

/-- The endpoint and the traces of a statement that links traces. -/
def Request.link? : Request → Option (Uuid × List Uuid)
  | command _ _ (.linkTraces endpointId traceIds) => some (endpointId, traceIds)
  | _ => none

/-- The endpoint and the dates of a statement that widens the dates of an endpoint. -/
def Request.dates? : Request → Option (Uuid × Instant × Instant)
  | command _ _ (.widenDates endpointId first last) => some (endpointId, first, last)
  | _ => none

/-- The links that were sent, whatever the database replied. -/
def linksSent (es : List Event) : List (Uuid × List Uuid) := es.filterMap fun e => e.request.link?

/-- The dates that were sent, whatever the database replied. -/
def datesSent (es : List Event) : List (Uuid × Instant × Instant) :=
  es.filterMap fun e => e.request.dates?

/-- The request links no traces and widens no dates. -/
structure Request.IsQuiet (r : Request) : Prop where
  link : r.link? = none
  dates : r.dates? = none

/-- If the request links traces then it links those of the group to the endpoint, and if it widens
dates then those of the endpoint to the span of the group. -/
structure Request.Serves (endpointId : Uuid) (group : TraceGroup) (r : Request) : Prop where
  link : ∀ l ∈ r.link?, l = (endpointId, group.traceIds)
  dates : ∀ d ∈ r.dates?, d = (endpointId, group.first, group.last)

theorem Request.IsQuiet.serves {r : Request} (h : r.IsQuiet) (endpointId : Uuid)
    (group : TraceGroup) : r.Serves endpointId group :=
  ⟨by simp [h.link], by simp [h.dates]⟩

section Quiet

variable {t : Tenant} {es es' : List Event}

theorem linksSent_append (es es' : List Event) :
    linksSent (es ++ es') = linksSent es ++ linksSent es' :=
  List.filterMap_append

theorem linksSent_subset (h : es ⊆ es') : linksSent es ⊆ linksSent es' := by
  intro l hl
  obtain ⟨e, he, hlink⟩ := List.mem_filterMap.1 hl
  exact List.mem_filterMap.2 ⟨e, h he, hlink⟩

theorem linksSent_of_quiet (h : ∀ e ∈ es, e.request.IsQuiet) : linksSent es = [] :=
  List.filterMap_eq_nil_iff.2 fun e he => (h e he).link

theorem datesSent_of_quiet (h : ∀ e ∈ es, e.request.IsQuiet) : datesSent es = [] :=
  List.filterMap_eq_nil_iff.2 fun e he => (h e he).dates

theorem quiet_findMatch (s : EndpointStore) (host method path : String) :
    Asks Request.IsQuiet (s.findMatch t host method path) :=
  (calls_findMatch s host method path).mono fun _ h => by cases h <;> exact ⟨rfl, rfl⟩

theorem quiet_placeEndpoint (s : Service) (p : PendingEndpoint) :
    Asks Request.IsQuiet (s.placeEndpoint t p) := by
  refine (asks_ask ⟨rfl, rfl⟩).bind fun ids => ?_
  refine ((calls_insert ..).mono fun _ h => by cases h <;> exact ⟨rfl, rfl⟩).bind fun x => ?_
  cases x with
  | inserted => exact asks_pure _
  | conflict =>
    refine ((calls_findExact ..).mono fun _ h => ?_).bind fun _ => asks_pure _
    cases h <;> exact ⟨rfl, rfl⟩

end Quiet

/-! ## Lookups -/

/-- The host and the method that an endpoint was looked for with, and the endpoint that was
found. -/
def Event.found? : Event → Option (String × String × Endpoint)
  | ⟨.store (.findMatch host method _), .ok (some e)⟩
  | ⟨.store (.findExact host method _), .ok (some e)⟩
  | ⟨.command _ _ (.findMatch host method _), .ok (some e)⟩
  | ⟨.command _ _ (.findExact host method _), .ok (some e)⟩ => some (host, method, e)
  | _ => none

/-- An endpoint of the host and the method was looked for, and this one was found. -/
def Found (es : List Event) (host method : String) (e : Endpoint) : Prop :=
  ∃ ev ∈ es, ev.found? = some (host, method, e)

/-- Lookups find endpoints of the host and the method that they ask for only. -/
def FindsAsAsked (es : List Event) : Prop :=
  ∀ host method e, Found es host method e → e.host = host ∧ e.method = method

instance (es : List Event) : Decidable (FindsAsAsked es) :=
  decidable_of_iff
    (∀ ev ∈ es, ∀ found ∈ ev.found?, found.2.2.host = found.1 ∧ found.2.2.method = found.2.1)
    ⟨fun h _ _ _ ⟨ev, hev, hfound⟩ => h ev hev _ hfound,
      fun h ev hev _ hfound => h _ _ _ ⟨ev, hev, hfound⟩⟩

/-- The endpoint was found or stored. -/
def Appears (es : List Event) (e : Endpoint) : Prop :=
  (∃ host method, Found es host method e) ∨ e ∈ insertions es

section Lookups

variable {t : Tenant} {es es' : List Event} {host method : String} {e : Endpoint}

theorem Found.subset (h : Found es host method e) (hsub : es ⊆ es') : Found es' host method e := by
  obtain ⟨ev, hev, hfound⟩ := h
  exact ⟨ev, hsub hev, hfound⟩

theorem Appears.subset (h : Appears es e) (hsub : es ⊆ es') : Appears es' e := by
  rcases h with ⟨host, method, hfound⟩ | hstored
  · exact .inl ⟨host, method, hfound.subset hsub⟩
  · obtain ⟨ev, hev, hstored⟩ := List.mem_filterMap.1 hstored
    exact .inr (List.mem_filterMap.2 ⟨ev, hsub hev, hstored⟩)

theorem FindsAsAsked.subset (h : FindsAsAsked es') (hsub : es ⊆ es') : FindsAsAsked es :=
  fun host method e hfound => h host method e (hfound.subset hsub)

/-- A retried query that ends with an answer has got it as a reply. -/
theorem mem_of_retryQuery {p : RetryPolicy} {command : Command} {answer : command.Answer}
    (hy : (retryQuery p (send .free t command)).Yields es (.ok answer)) :
    ⟨.command .free t command, Except.ok answer⟩ ∈ es := by
  obtain ⟨before, last, rfl, hlast, -⟩ := yields_retryQuery hy
  obtain ⟨_ | _, rfl, hreply⟩ := yields_send.1 hlast
  · cases hreply
  · obtain rfl := Except.ok.inj hreply
    exact List.mem_append_right _ (List.mem_singleton_self _)

/-- An endpoint that a lookup is answered with is found, wherever endpoints are kept. -/
theorem found_of_lookup {s : EndpointStore} {path : String}
    (hy : (s.findMatch t host method path).Yields es (.ok (some e)) ∨
      (s.findExact t host method path).Yields es (.ok (some e))) : Found es host method e := by
  cases s with
  | memory =>
    rcases hy with hy | hy <;> obtain ⟨_, rfl, rfl⟩ := yields_askMemory.1 hy <;>
      exact ⟨_, List.mem_singleton_self _, rfl⟩
  | database retry => rcases hy with hy | hy <;> exact ⟨_, mem_of_retryQuery hy, rfl⟩

theorem found_of_find {r : Resolver} {path : String}
    (hy : (r.find t host method path).Yields es (.ok (some e))) :
    Found es host method e := by
  obtain ⟨_, hf, -⟩ | ⟨es₁, es₂, found, rfl, hmatch, hfilter⟩ := yields_bind.1 hy
  · cases hf
  obtain ⟨rfl, hfound⟩ := yields_pure.1 hfilter
  obtain ⟨rfl, -⟩ := Option.filter_eq_some_iff.1 (Except.ok.inj hfound).symm
  rw [List.append_nil]
  exact found_of_lookup (.inl hmatch)

/-- The endpoint that a template gets is stored, or is found by the host and the method. -/
theorem appears_of_placeEndpoint {s : Service} {p : PendingEndpoint} {isNew : Bool}
    (hmethod : p.method.toUpper = p.method) (hfinds : FindsAsAsked es)
    (hy : (s.placeEndpoint t p).Yields es (.ok (some (e, isNew)))) :
    Appears es e ∧ e.host = p.host ∧ e.method = p.method := by
  obtain ⟨_, hf, -⟩ | ⟨es₁, es₂, ids, rfl, -, hrest⟩ := yields_bind.1 hy
  · cases hf
  obtain ⟨_, hf, -⟩ | ⟨es₃, es₄, y, rfl, hinsert, hplace⟩ := yields_bind.1 hrest
  · cases hf
  cases y with
  | inserted =>
    obtain ⟨rfl, hplaced⟩ := yields_pure.1 hplace
    cases hplaced
    refine ⟨.inr ?_, rfl, hmethod⟩
    rw [insertions_append, insertions_append, insertions_insert hinsert]
    simp
  | conflict =>
    obtain ⟨_, hf, -⟩ | ⟨es₅, es₆, found, rfl, hexact, hpure⟩ := yields_bind.1 hplace
    · cases hf
    obtain ⟨rfl, hfound⟩ := yields_pure.1 hpure
    obtain ⟨_, rfl, he⟩ := Option.map_eq_some_iff.1 (Except.ok.inj hfound).symm
    cases he
    have hsub : es₅ ⊆ es₁ ++ (es₃ ++ (es₅ ++ [])) := by simp
    have hfound := (found_of_lookup (.inr hexact)).subset hsub
    exact ⟨.inl ⟨_, _, hfound⟩, hfinds _ _ _ hfound⟩

theorem Judgement.eq_of_ofLookup_eq_known {trace : Trace} {y : Except Failure (Option Endpoint)}
    {e : Endpoint} (h : Judgement.ofLookup trace y = .known e) : y = .ok (some e) := by
  rcases y with f | _ | e'
  · cases h
  · rw [ofLookup] at h
    split at h <;> cases h
  · cases h
    rfl

theorem Service.Judges.quiet {s : Service} {trace : Trace} {verdict : Judgement}
    (h : s.Judges t trace es verdict) : ∀ ev ∈ es, ev.request.IsQuiet := by
  cases h with
  | pathless hpath => simp
  | lookup hpath hfind =>
    have hquiet : Asks Request.IsQuiet (s.resolver.find t trace.host trace.method.toUpper
        (Path.normalize trace.path)) := (quiet_findMatch ..).bind fun _ => asks_pure _
    exact hquiet hfind

/-- A trace is known by an endpoint that was found for it. -/
theorem Service.Judges.found {s : Service} {trace : Trace} (h : s.Judges t trace es (.known e)) :
    Found es trace.host trace.method.toUpper e := by
  generalize hverdict : Judgement.known e = verdict at h
  cases h with
  | pathless hpath => cases hverdict
  | lookup hpath hfind =>
    obtain rfl := Judgement.eq_of_ofLookup_eq_known hverdict.symm
    exact found_of_find hfind

end Lookups

/-! ## Linking a group -/

/-- The database refused to open a level. -/
def Event.isUnopened : Event → Bool
  | ⟨.openLevel _, .error _⟩ => true
  | _ => false

/-- All levels could be opened. -/
def Opens (es : List Event) : Prop := ∀ ev ∈ es, ev.isUnopened = false

instance (es : List Event) : Decidable (Opens es) :=
  inferInstanceAs (Decidable (∀ ev ∈ es, ev.isUnopened = false))

theorem Opens.subset {es es' : List Event} (h : Opens es') (hsub : es ⊆ es') : Opens es :=
  fun ev hev => h ev (hsub hev)

theorem not_opens_unopened (c : ConnectionId) (e : DatabaseError) :
    ¬ Opens [⟨.openLevel c, Except.error e⟩] := by
  intro h
  cases h _ List.mem_cons_self

/-- A step is run if its level can be opened. -/
theorem exists_run_of_stepTries {α : Type} {c : ConnectionId} {step : Attempt α} {left : Nat}
    {moves : List (Move α)} {x : Except Failure α} (h : Tries.StepTries c step left moves x)
    (hopen : Opens (Tries.transcript moves)) :
    ∃ es y, step.Yields es y ∧ es ⊆ Tries.transcript moves := by
  cases h with
  | unopened e => exact absurd hopen (not_opens_unopened c e)
  | uncommitted e hrun | committed hrun | stuck e hrun | failed hrun hf | again millis hrun hf h =>
    exact ⟨_, _, hrun, by simp [Move.events]⟩

namespace Service

variable {s : Service} {c : ConnectionId} {t : Tenant} {es : List Event}

/-- What a step sends is sent if its level can be opened. -/
theorem mem_of_step {command : Command} {x : Except Failure Unit}
    (hy : (s.step c t command).Yields es x) (hopen : Opens es) :
    ∃ ev ∈ es, ev.request = .command (.held c) t command := by
  obtain ⟨moves, rfl, hmoves⟩ := Tries.stepTries_of_yields hy
  obtain ⟨es', y, hstep, hsub⟩ := exists_run_of_stepTries hmoves hopen
  obtain ⟨e, rfl, rfl⟩ | ⟨n, rest, rfl, hpure⟩ := yields_send_bind.1 hstep
  · exact ⟨_, hsub List.mem_cons_self, rfl⟩
  · exact ⟨_, hsub List.mem_cons_self, rfl⟩

section Group

variable {endpointId : Uuid} {group : TraceGroup} {alert : Option Alert} {x : Except Failure Unit}

/-- The traces of a group are linked if all levels can be opened. -/
theorem link_mem_linksSent (hy : (s.linkGroup c t endpointId group alert).Yields es x)
    (hopen : Opens es) : (endpointId, group.traceIds) ∈ linksSent es := by
  -- The link is the first step of the transaction, so it is sent however the transaction ends.
  have hsent : ∀ {es' y}, (s.linkBody c t endpointId group alert).Yields es' y → es' ⊆ es →
      (endpointId, group.traceIds) ∈ linksSent es := by
    intro es' y hbody hsub
    have hstep : ∃ es₁ z, (s.step c t (.linkTraces endpointId group.traceIds)).Yields es₁ z ∧
        es₁ ⊆ es := by
      obtain ⟨_, rfl, hstep⟩ | ⟨es₁, es₂, _, rfl, hstep, -⟩ := yields_bind.1 hbody
      · exact ⟨es', _, hstep, hsub⟩
      · exact ⟨es₁, _, hstep, List.Subset.trans (List.subset_append_left ..) hsub⟩
    obtain ⟨es₁, z, hstep, hsub⟩ := hstep
    obtain ⟨ev, hev, hrequest⟩ := mem_of_step hstep (hopen.subset hsub)
    exact List.mem_filterMap.2 ⟨ev, hsub hev, by rw [hrequest]; rfl⟩
  cases yields_level hy with
  | unopened e => exact absurd hopen (not_opens_unopened c e)
  | uncommitted e hbody => exact hsent hbody (by simp)
  | committed hbody => exact hsent hbody (by simp)
  | failed hbody hnext => exact hsent hbody (by simp)

/-- Whatever is sent for a group serves it. -/
theorem serves_linkGroup :
    Asks (Request.Serves endpointId group) (s.linkGroup c t endpointId group alert) := by
  have hquiet : ∀ {r : Request}, r.link? = none → r.dates? = none → r.Serves endpointId group :=
    fun hlink hdates => Request.IsQuiet.serves ⟨hlink, hdates⟩ endpointId group
  have hstep : ∀ {command}, Request.Serves endpointId group (.command (.held c) t command) →
      Asks (Request.Serves endpointId group) (s.step c t command) := fun h =>
    Asks.retryStep (hquiet rfl rfl) (hquiet rfl rfl) (hquiet rfl rfl) (fun _ => hquiet rfl rfl)
      ((asks_send h).bind fun _ => asks_pure ())
  have hlink : Request.Serves endpointId group
      (.command (.held c) t (.linkTraces endpointId group.traceIds)) :=
    ⟨by simp [Request.link?], by simp [Request.dates?]⟩
  have hdates : Request.Serves endpointId group
      (.command (.held c) t (.widenDates endpointId group.first group.last)) :=
    ⟨by simp [Request.link?], by simp [Request.dates?]⟩
  rw [linkGroup_eq]
  refine Asks.transaction (hquiet rfl rfl) (hquiet rfl rfl) (hquiet rfl rfl) ?_
  refine (hstep hlink).bind fun _ => (hstep hdates).bind fun _ => ?_
  cases alert with
  | none => exact asks_pure ()
  | some a => exact hstep (hquiet rfl rfl)

end Group

end Service

/-! ## Groups and their endpoints -/

/-- A group of a page, the endpoint that it got, if any, and the transcript of what was done for
it. -/
structure GroupRun where
  group : PageGroup
  endpointId : Option Uuid
  events : List Event

namespace Service

/-- The ways in which a group gets an endpoint and is linked to it: it goes to one that is stored,
its template becomes one, or its template does not become one. -/
inductive Links (s : Service) (c : ConnectionId) (t : Tenant) : GroupRun → Prop
  | matched {id : Uuid} {group : TraceGroup} {es : List Event} {y : Except Failure Unit}
    (hlink : (s.linkGroup c t id group none).Yields es y) :
    Links s c t ⟨.matched id group, some id, es⟩
  | placed {p : PendingEndpoint} {e : Endpoint} {isNew : Bool} {es₁ es₂ : List Event}
    {ids : Nat → Uuid} {y : Except Failure Unit}
    (hplace : (s.placeEndpoint t p).Yields es₁ (.ok (some (e, isNew))))
    (hlink : (s.linkGroup c t e.id p.group
      (if isNew then some { Alert.newEndpoint e p.firstTrace with id := ids 0 } else none)).Yields
        es₂ y) :
    Links s c t ⟨.pending p, some e.id, es₁ ++ ⟨.freshIds, ids⟩ :: es₂⟩
  | unplaced {p : PendingEndpoint} {es : List Event} {y : Except Failure (Option (Endpoint × Bool))}
    (hplace : (s.placeEndpoint t p).Yields es y) (hnone : ∀ placed, y ≠ .ok (some placed)) :
    Links s c t ⟨.pending p, none, es⟩

section Run

variable {s : Service} {c : ConnectionId} {t : Tenant} {r : GroupRun}

theorem Links.serves (h : s.Links c t r) {ev : Event} (hev : ev ∈ r.events) :
    ev.request.IsQuiet ∨ ∃ id, r.endpointId = some id ∧ ev.request.Serves id r.group.group := by
  cases h with
  | matched hlink => exact .inr ⟨_, rfl, serves_linkGroup hlink ev hev⟩
  | placed hplace hlink =>
    rcases List.mem_append.1 hev with hev | hev
    · exact .inl (quiet_placeEndpoint s _ hplace ev hev)
    · rcases List.mem_cons.1 hev with rfl | hev
      · exact .inl ⟨rfl, rfl⟩
      · exact .inr ⟨_, rfl, serves_linkGroup hlink ev hev⟩
  | unplaced hplace hnone => exact .inl (quiet_placeEndpoint s _ hplace ev hev)

/-- Only the traces of the group are linked, to its endpoint. -/
theorem Links.eq_of_mem_linksSent (h : s.Links c t r) {l : Uuid × List Uuid}
    (hl : l ∈ linksSent r.events) : r.endpointId = some l.1 ∧ l.2 = r.group.traceIds := by
  obtain ⟨ev, hev, hlink⟩ := List.mem_filterMap.1 hl
  rcases h.serves hev with hquiet | ⟨id, hid, hserves⟩
  · rw [hquiet.link] at hlink
    cases hlink
  · obtain rfl := hserves.link l hlink
    exact ⟨hid, rfl⟩

/-- Only the dates of the endpoint are widened, to those of the group. -/
theorem Links.eq_of_mem_datesSent (h : s.Links c t r) {d : Uuid × Instant × Instant}
    (hd : d ∈ datesSent r.events) :
    r.endpointId = some d.1 ∧ d.2 = (r.group.group.first, r.group.group.last) := by
  obtain ⟨ev, hev, hdates⟩ := List.mem_filterMap.1 hd
  rcases h.serves hev with hquiet | ⟨id, hid, hserves⟩
  · rw [hquiet.dates] at hdates
    cases hdates
  · obtain rfl := hserves.dates d hdates
    exact ⟨hid, rfl⟩

/-- A group with an endpoint is linked if all levels can be opened. -/
theorem Links.mem_linksSent (h : s.Links c t r) (hopen : Opens r.events) {id : Uuid}
    (hid : r.endpointId = some id) : (id, r.group.traceIds) ∈ linksSent r.events := by
  cases h with
  | matched hlink =>
    obtain rfl := Option.some.inj hid
    exact link_mem_linksSent hlink hopen
  | @placed p e isNew es₁ es₂ ids y hplace hlink =>
    obtain rfl := Option.some.inj hid
    have hsub : es₂ ⊆ es₁ ++ ⟨.freshIds, ids⟩ :: es₂ := by simp
    exact linksSent_subset hsub (link_mem_linksSent hlink (hopen.subset hsub))
  | unplaced hplace hnone => cases hid

end Run

end Service

end TrafficLens
