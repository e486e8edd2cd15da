import TrafficLens.Proofs.Service.Deeds
import TrafficLens.Service.Backfill

/-!
# Which endpoints are announced

The deeds of every call that processes a trace or links a page are honest (`honest_process`,
`honest_linkPage`). So in a run of calls the endpoints that are announced are those for which the
call that stored them went on to commit its transaction (`announced_iff_committed`). One whose next
transaction fails is never announced, for to later calls it is no longer new
(`exists_linked_not_announced`).
-/

namespace TrafficLens

open Attempt Ledger

/-! ## Processing a trace -/

/-- The endpoint that was made for a trace. -/
def Resolution.new? : Resolution → Option Endpoint
  | resolved e true => some e
  | _ => none

namespace Resolver

variable {c : ConnectionId}

theorem stores_create (r : Resolver) (t : Tenant) (host method : String)
    (template : PathTemplate) : Stores Resolution.new? (r.create t host method template) := by
  refine stores_bind ((idle_freshIds (c := 0)).mono fun _ h => h.2) fun ids => ?_
  intro es x hy
  obtain ⟨es₁, es₂, y, rfl, hinsert, hrest⟩ := yields_outcome_bind.1 hy
  rw [insertions_append, insertions_insert hinsert]
  rcases y with f | _ | _
  · exact stores_pure rfl hrest
  · obtain ⟨rfl, rfl⟩ := yields_pure.1 hrest
    exact ⟨rfl, fun e he => Option.some.inj he ▸ rfl⟩
  · refine stores_bind ((idle_findExact (c := 0) ..).mono fun _ h => h.2) (fun found => ?_) hrest
    cases found with
    | some e => exact stores_pure rfl
    | none => exact stores_pure rfl

theorem asks_create (r : Resolver) (t : Tenant) (host method : String)
    (template : PathTemplate) :
    Asks (fun r => r.connection? ≠ some c) (r.create t host method template) := by
  refine (idle_freshIds.mono fun _ h => h.1).bind fun ids => ?_
  refine (asks_insert ..).outcome.bind fun y => ?_
  rcases y with f | _ | _
  · exact asks_pure _
  · exact asks_pure _
  · refine ((idle_findExact ..).mono fun _ h => h.1).bind fun found => ?_
    cases found <;> exact asks_pure _

theorem stores_resolve (r : Resolver) (t : Tenant) (trace : Trace) :
    Stores Resolution.new? (r.resolve t trace) := by
  rw [resolve]
  split
  · exact stores_pure rfl
  refine stores_bind ((idle_find (c := 0) ..).mono fun _ h => h.2) fun found => ?_
  cases found with
  | some e => exact stores_pure rfl
  | none =>
    dsimp only
    split
    · exact stores_pure rfl
    · cases r.policy.infer (Path.normalize trace.path) with
      | some template => exact stores_create r t _ _ template
      | none => exact stores_pure rfl

theorem asks_resolve (r : Resolver) (t : Tenant) (trace : Trace) :
    Asks (fun r => r.connection? ≠ some c) (r.resolve t trace) := by
  rw [resolve]
  split
  · exact asks_pure _
  refine ((idle_find ..).mono fun _ h => h.1).bind fun found => ?_
  cases found with
  | some e => exact asks_pure _
  | none =>
    dsimp only
    split
    · exact asks_pure _
    · cases r.policy.infer (Path.normalize trace.path) with
      | some template => exact asks_create r t _ _ template
      | none => exact asks_pure _

end Resolver

/-! ### What an analysis announces -/

theorem filterMap_announced_withIds (ids : Nat → Uuid) (alerts : List Alert) (n : Nat) :
    ((Alert.withIds ids n alerts).map Command.insertAlert).filterMap Command.announced? =
      (alerts.map Command.insertAlert).filterMap Command.announced? := by
  induction alerts generalizing n with
  | nil => rfl
  | cons a alerts ih =>
    rw [Alert.withIds, List.map_cons, List.map_cons, List.filterMap_cons, List.filterMap_cons, ih]
    rfl

/-- Of the alerts that a trace sets off, only the one for a new endpoint announces it. -/
theorem filterMap_announced_pendingAlerts (scanner : Scanner) (hstsWanted : Bool)
    (endpoint : Endpoint) (trace : Trace) (outcome : Reconciliation) (document : Option Json)
    (isNew : Bool) :
    ((pendingAlerts scanner hstsWanted endpoint trace outcome document isNew).map
      Command.insertAlert).filterMap Command.announced? =
      if isNew then [endpoint.id] else [] := by
  have hclasses : ((outcome.newClasses.map (Alert.sensitiveData scanner endpoint trace)).map
      Command.insertAlert).filterMap Command.announced? = [] := by
    simp [Command.announced?, Alert.sensitiveData, Alert.ofTrace]
  have hunauthenticated :
      ((Alert.unauthenticated? endpoint trace outcome.responseClasses).toList.map
        Command.insertAlert).filterMap Command.announced? = [] := by
    rw [Alert.unauthenticated?]
    split <;> simp [Command.announced?, Alert.ofTrace]
  have hdiffs : ∀ diffs : List SpecDiff,
      ((diffs.map (Alert.specDiff endpoint trace)).map Command.insertAlert).filterMap
        Command.announced? = [] := fun diffs => by
    simp [Command.announced?, Alert.specDiff, Alert.ofTrace]
  have hhsts : ∀ b : Bool, ((if b then [Alert.missingHsts endpoint trace] else []).map
      Command.insertAlert).filterMap Command.announced? = [] := fun b => by
    cases b <;> simp [Command.announced?, Alert.missingHsts, Alert.ofTrace]
  unfold pendingAlerts
  simp only [List.map_append, List.filterMap_append, hclasses, hunauthenticated, hhsts,
    List.append_nil]
  cases document <;> cases isNew <;>
    simp only [hdiffs, List.map_nil, List.filterMap_nil, List.nil_append] <;> rfl

namespace Service

variable {s : Service} {c : ConnectionId} {t : Tenant}

theorem announced_analysisCommands (endpoint : Endpoint) (trace : Trace) (isNew : Bool)
    (write : TraceWrite) (document : Option Json) (existing : List Field)
    (fieldIds alertIds : Nat → Uuid) :
    (s.analysisCommands endpoint trace isNew write document existing fieldIds
      alertIds).filterMap Command.announced? = if isNew then [endpoint.id] else [] := by
  have hwrite : (write.command trace endpoint.id).announced? = none := by cases write <;> rfl
  have hfields : ∀ fields : List Field,
      (fields.map Command.upsertField).filterMap Command.announced? = [] := fun fields => by
    simp [Command.announced?]
  rw [analysisCommands, findingCommands, findingAlerts]
  simp only [List.filterMap_cons, List.filterMap_append, hfields, filterMap_announced_withIds,
    filterMap_announced_pendingAlerts]
  rw [findingUpdate, hwrite]
  simp [Command.announced?]

/-! ### Nothing is stored inside a transaction -/

theorem keeps_retryStep {α : Type} {p : RetryPolicy} {a : Attempt α} (h : Asks Request.Keeps a) :
    Asks Request.Keeps (retryStep p c a) :=
  Asks.retryStep (by rfl) (by rfl) (by rfl) (fun _ => by rfl) h

theorem keeps_step {command : Command} (h : Request.Keeps (.command (.held c) t command)) :
    Asks Request.Keeps (s.step c t command) :=
  keeps_retryStep ((asks_send h).bind fun _ => asks_pure ())

theorem keeps_upsertFields (fields : List Field) :
    Asks Request.Keeps (upsertFields (.held c) t fields) := by
  induction fields with
  | nil => exact asks_pure ()
  | cons f fields ih => exact (asks_send (by rfl)).bind fun _ => ih

theorem keeps_insertAlerts (alerts : List Alert) :
    Asks Request.Keeps (insertAlerts (.held c) t alerts) := by
  induction alerts with
  | nil => exact asks_pure 0
  | cons a alerts ih => exact (asks_send (by rfl)).bind fun _ => ih.bind fun _ => asks_pure _

theorem keeps_persist (trace : Trace) (write : TraceWrite) (fields : List Field)
    (alerts : List Alert) (update : EndpointUpdate) :
    Asks Request.Keeps (s.persist c t trace write fields alerts update) := by
  have hwrite : Request.Keeps (.command (.held c) t (write.command trace update.id)) := by
    cases write <;> rfl
  exact (keeps_step hwrite).bind fun _ =>
    (keeps_retryStep (keeps_upsertFields fields)).bind_of_isTrue () fun _ =>
      (keeps_retryStep (keeps_insertAlerts alerts)).bind_of_isTrue 0 fun n =>
        (keeps_step (by rfl)).bind fun _ => asks_pure n

theorem keeps_analyzeLocked (endpoint : Endpoint) (trace : Trace) (isNew : Bool)
    (write : TraceWrite) (document : Option Json) :
    Asks Request.Keeps (s.analyzeLocked c t endpoint trace isNew write document) :=
  (keeps_step (by rfl)).bind fun _ => (asks_send (by rfl)).bind fun _ =>
    (asks_ask (by rfl)).bind fun _ => (asks_ask (by rfl)).bind fun _ =>
      (keeps_persist ..).bind fun _ => asks_pure _

theorem keeps_loadUploaded (e : Endpoint) : Asks Request.Keeps (loadUploaded c t e) := by
  rw [loadUploaded]
  cases e.documentName with
  | none => exact asks_pure none
  | some name =>
    cases e.hasUploadedDocument with
    | false => exact asks_pure none
    | true => exact asks_send (by rfl)

theorem closes_loadUploaded {W : List Sent → Prop} (e : Endpoint) :
    Closes c (loadUploaded c t e) W :=
  fun _ _ hy => ⟨[], by simp, fun closed => by rw [after_loadUploaded hy, List.append_nil]⟩

theorem announced_of_analyzeLocked {endpoint : Endpoint} {trace : Trace} {isNew : Bool}
    {write : TraceWrite} {document : Option Json} {work : List Sent}
    (h : ∃ existing fieldIds alertIds, CarryOut t (s.analysisCommands endpoint trace isNew write
      document existing fieldIds alertIds) work) :
    announced work = if isNew then [endpoint.id] else [] := by
  obtain ⟨existing, fieldIds, alertIds, hwork⟩ := h
  rw [announced_of_carryOut hwork, announced_analysisCommands]

/-- An analysis for an endpoint that is there is honest. -/
theorem honest_analyze (endpoint : Endpoint) (trace : Trace) (write : TraceWrite) :
    Honest c (s.analyze c t endpoint trace false write) := by
  refine (honest_of_closes (closes_loadUploaded _) (keeps_loadUploaded _)).bind fun document => ?_
  refine honest_of_closes (closes_transaction (adds_analyzeLocked _ trace false write document) ?_)
    (Asks.transaction (by rfl) (by rfl) (by rfl) (keeps_analyzeLocked ..))
  rintro report work ⟨existing, fieldIds, alertIds, -, hwork, -⟩
  exact announced_of_analyzeLocked ⟨existing, fieldIds, alertIds, hwork⟩

/-- An analysis for an endpoint that was just made announces it. -/
theorem announces_analyze {endpoint : Endpoint} (h : endpoint.documentName = none) (trace : Trace)
    (write : TraceWrite) : Announces c endpoint (s.analyze c t endpoint trace true write) := by
  have hload : loadUploaded c t (endpoint.seenAt trace.createdAt) = pure none := by
    have hname : (endpoint.seenAt trace.createdAt).documentName = none := h
    rw [loadUploaded, hname]
  rw [analyze, hload]
  refine announces_transaction (adds_analyzeLocked _ trace true write none)
    (keeps_analyzeLocked ..) ?_
  rintro report work ⟨existing, fieldIds, alertIds, -, hwork, -⟩
  exact announced_of_analyzeLocked ⟨existing, fieldIds, alertIds, hwork⟩

theorem honest_storeUnlinked (trace : Trace) : Honest c (s.storeUnlinked c t trace) := by
  have hstep := (adds_send (c := c) t (.insertTrace trace none false)).bind fun _ => adds_pure ()
  refine honest_of_closes (closes_retryStep hstep ?_) (keeps_step (by rfl))
  rintro _ work ⟨n, work₁, work₂, rfl, rfl, -, rfl⟩
  rfl

/-- Processing a trace is honest. -/
theorem honest_process (trace : Trace) : Honest c (s.process c t trace) := by
  refine honest_bind_of_stores (s.resolver.stores_resolve t _) (s.resolver.asks_resolve t _)
    (fun x hx => ?_) fun x e hx hdocument => ?_
  · rcases x with ⟨e, _ | _⟩ | _ | _
    · exact (honest_analyze ..).bind fun _ => honest_pure _
    · cases hx
    · exact honest_pure _
    · exact (honest_storeUnlinked ..).bind fun _ => honest_pure _
  · rcases x with ⟨e', _ | _⟩ | _ | _
    · cases hx
    · obtain rfl := Option.some.inj hx
      exact (announces_analyze hdocument ..).bind_idle fun _ => asks_pure _
    · cases hx
    · cases hx

/-! ### Linking a page -/

theorem asks_countFailure {P : Request → Prop} (r : BackfillReport) (size : Nat) (f : Failure) :
    Asks P (r.countFailure size f) := by
  rw [BackfillReport.countFailure]
  split
  · exact asks_throw f
  · exact asks_pure _

theorem asks_countLinked {P : Request → Prop} (report : BackfillReport) (size : Nat)
    (x : Except Failure Unit) : Asks P (countLinked report size x) := by
  cases x with
  | ok _ => exact asks_pure _
  | error f => exact asks_countFailure report size f

theorem idle_sortTrace (trace : Trace) (page : SortedPage) (report : BackfillReport) :
    Asks (Idle c) (s.sortTrace t trace page report) := by
  rw [sortTrace]
  dsimp only
  split
  · exact asks_pure _
  refine (idle_find ..).outcome.bind fun found => ?_
  rcases found with f | _ | e
  · exact (asks_countFailure ..).bind fun _ => asks_pure _
  · exact asks_pure _
  · exact asks_pure _

theorem idle_sort (page : SortedPage) (report : BackfillReport) (traces : List Trace) :
    Asks (Idle c) (s.sort t page report traces) := by
  induction traces generalizing page report with
  | nil => exact asks_pure _
  | cons trace rest ih => exact (idle_sortTrace ..).bind fun p => ih p.1 p.2

/-- The commands that link a group. -/
def linkCommands (endpointId : Uuid) (group : TraceGroup) (alert : Option Alert) : List Command :=
  .linkTraces endpointId group.traceIds :: .widenDates endpointId group.first group.last ::
    alert.toList.map .insertAlert

/-- What `linkGroup` does inside its transaction. -/
def linkBody (s : Service) (c : ConnectionId) (t : Tenant) (endpointId : Uuid)
    (group : TraceGroup) (alert : Option Alert) : Attempt Unit := do
  s.step c t (.linkTraces endpointId group.traceIds)
  s.step c t (.widenDates endpointId group.first group.last)
  match alert with
  | none => pure ()
  | some a => s.step c t (.insertAlert a)

theorem linkGroup_eq (endpointId : Uuid) (group : TraceGroup) (alert : Option Alert) :
    s.linkGroup c t endpointId group alert =
      transaction c (s.linkBody c t endpointId group alert) := rfl

theorem adds_linkBody (endpointId : Uuid) (group : TraceGroup) (alert : Option Alert) :
    Adds c (s.linkBody c t endpointId group alert) fun _ work =>
      CarryOut t (linkCommands endpointId group alert) work := by
  have halert : Adds c (match alert with
      | none => pure ()
      | some a => s.step c t (.insertAlert a)) fun _ work =>
        CarryOut t (alert.toList.map .insertAlert) work := by
    cases alert with
    | none =>
      refine (adds_pure ()).mono ?_
      rintro v work ⟨-, rfl⟩
      exact .nil
    | some a =>
      refine (adds_step (.insertAlert a)).mono ?_
      rintro v work ⟨answer, rfl⟩
      exact .single answer
  have hbody : Adds c (s.linkBody c t endpointId group alert) _ :=
    (adds_step (.linkTraces endpointId group.traceIds)).bind fun _ =>
      (adds_step (.widenDates endpointId group.first group.last)).bind fun _ => halert
  refine hbody.mono ?_
  rintro v work ⟨-, _, _, rfl, ⟨a₁, rfl⟩, -, _, _, rfl, ⟨a₂, rfl⟩, hwork⟩
  exact .cons ⟨a₁, rfl⟩ (.cons ⟨a₂, rfl⟩ hwork)

theorem keeps_linkBody (endpointId : Uuid) (group : TraceGroup) (alert : Option Alert) :
    Asks Request.Keeps (s.linkBody c t endpointId group alert) := by
  refine (keeps_step (by rfl)).bind fun _ => (keeps_step (by rfl)).bind fun _ => ?_
  cases alert with
  | none => exact asks_pure ()
  | some a => exact keeps_step (by rfl)

/-- Linking a group to an endpoint that is there is honest. -/
theorem honest_linkGroup (endpointId : Uuid) (group : TraceGroup) :
    Honest c (s.linkGroup c t endpointId group none) := by
  rw [linkGroup_eq]
  refine honest_of_closes (closes_transaction (adds_linkBody endpointId group none) ?_)
    (Asks.transaction (by rfl) (by rfl) (by rfl) (keeps_linkBody ..))
  intro _ work hwork
  rw [announced_of_carryOut hwork]
  rfl

/-- Linking a group to an endpoint that was just made announces it. -/
theorem announces_linkGroup (e : Endpoint) (trace : Trace) (id : Uuid) (group : TraceGroup) :
    Announces c e
      (s.linkGroup c t e.id group (some { Alert.newEndpoint e trace with id })) := by
  rw [linkGroup_eq]
  refine announces_transaction (adds_linkBody e.id group _) (keeps_linkBody ..) ?_
  intro _ work hwork
  rw [announced_of_carryOut hwork]
  rfl

theorem honest_linkMatched (report : BackfillReport) (groups : List (Uuid × TraceGroup)) :
    Honest c (s.linkMatched c t report groups) := by
  induction groups generalizing report with
  | nil => exact honest_pure _
  | cons p rest ih =>
    exact (honest_linkGroup ..).outcome.bind fun _ =>
      (honest_of_idle (asks_countLinked ..)).bind fun _ => ih _

/-- The endpoint that was made for a template. -/
def placed? : Option (Endpoint × Bool) → Option Endpoint
  | some (e, true) => some e
  | _ => none

theorem stores_placeEndpoint (p : PendingEndpoint) : Stores placed? (s.placeEndpoint t p) := by
  refine stores_bind ((idle_freshIds (c := 0)).mono fun _ h => h.2) fun ids => ?_
  intro es x hy
  obtain ⟨f, rfl, hinsert⟩ | ⟨es₁, es₂, y, rfl, hinsert, hrest⟩ := yields_bind.1 hy
  · rw [insertions_insert hinsert]
    simp [Except.toOption]
  rw [insertions_append, insertions_insert hinsert]
  cases y with
  | inserted =>
    obtain ⟨rfl, rfl⟩ := yields_pure.1 hrest
    exact ⟨rfl, fun e he => Option.some.inj he ▸ rfl⟩
  | conflict =>
    refine stores_bind ((idle_findExact (c := 0) ..).mono fun _ h => h.2) (fun found => ?_) hrest
    cases found with
    | some e => exact stores_pure rfl
    | none => exact stores_pure rfl

theorem asks_placeEndpoint (p : PendingEndpoint) :
    Asks (fun r => r.connection? ≠ some c) (s.placeEndpoint t p) := by
  refine (idle_freshIds.mono fun _ h => h.1).bind fun ids => (asks_insert ..).bind fun x => ?_
  cases x with
  | inserted => exact asks_pure _
  | conflict => exact ((idle_findExact ..).mono fun _ h => h.1).bind fun _ => asks_pure _

theorem honest_linkNew (report : BackfillReport) (p : PendingEndpoint) :
    Honest c (s.linkNew c t report p) := by
  refine honest_bind_of_stores (s.stores_placeEndpoint p).outcome (asks_placeEndpoint p).outcome
    (fun x hx => ?_) fun x e hx _ => ?_
  · rcases x with f | _ | ⟨e, _ | _⟩
    · exact honest_of_idle (asks_countFailure ..)
    · exact honest_pure _
    · exact (honest_of_idle idle_freshIds).bind fun _ => (honest_linkGroup ..).outcome.bind fun _ =>
        honest_of_idle (asks_countLinked ..)
    · cases hx
  · rcases x with f | _ | ⟨e', _ | _⟩
    · cases hx
    · cases hx
    · cases hx
    · obtain rfl := Option.some.inj hx
      exact announces_freshIds_bind fun ids =>
        (announces_linkGroup ..).outcome.bind_idle fun _ => asks_countLinked ..

theorem honest_linkPending (report : BackfillReport) (pending : List PendingEndpoint) :
    Honest c (s.linkPending c t report pending) := by
  induction pending generalizing report with
  | nil => exact honest_pure _
  | cons p rest ih => exact (honest_linkNew report p).bind fun report => ih report

/-- Linking a page is honest. -/
theorem honest_linkPage (report : BackfillReport) (traces : List Trace) :
    Honest c (s.linkPage c t report traces) :=
  (honest_of_idle (idle_sort {} report traces)).bind fun _ =>
    (honest_linkMatched ..).bind fun _ => honest_linkPending ..

end Service

/-! ## Runs -/

/-- A call that stores endpoints and makes transactions. -/
inductive Call where
  | process (c : ConnectionId) (t : Tenant) (trace : Trace)
  | linkPage (c : ConnectionId) (t : Tenant) (report : BackfillReport) (traces : List Trace)

namespace Call

/-- The connection that the call holds. -/
def connection : Call → ConnectionId
  | process c .. | linkPage c .. => c

/-- The call can go along the transcript, and end in some way. -/
def Goes (s : Service) : Call → List Event → Prop
  | process c t trace, es => ∃ x, (s.process c t trace).Yields es x
  | linkPage c t report traces, es => ∃ x, (s.linkPage c t report traces).Yields es x

/-- The deeds of a call. -/
def deeds (call : Call) (es : List Event) : List Deed := Ledger.deeds call.connection {} es

theorem honest_deeds {s : Service} {call : Call} {es : List Event} (h : call.Goes s es) :
    HonestDeeds (call.deeds es) := by
  cases call with
  | process c t trace =>
    obtain ⟨x, hx⟩ := h
    exact (s.honest_process trace hx []).2
  | linkPage c t report traces =>
    obtain ⟨x, hx⟩ := h
    exact (s.honest_linkPage report traces hx []).2

end Call

/-- The deeds of calls, one after another. -/
def runDeeds (run : List (Call × List Event)) : List Deed := run.flatMap fun p => p.1.deeds p.2

theorem honest_runDeeds {s : Service} {run : List (Call × List Event)}
    (h : ∀ p ∈ run, p.1.Goes s p.2) : HonestDeeds (runDeeds run) := by
  induction run with
  | nil => exact .nil
  | cons p run ih =>
    exact (Call.honest_deeds (h p List.mem_cons_self)).append
      (ih fun q hq => h q (List.mem_cons_of_mem _ hq))

/-- **Which endpoints are announced.** In a run of calls, whatever they are replied, the endpoints
that are announced by committed alerts are those for which the call that stored them went on to
commit its transaction. An endpoint whose first transaction fails is never announced, whatever is
done about it later. -/
theorem announced_iff_committed {s : Service} {run : List (Call × List Event)}
    (h : ∀ p ∈ run, p.1.Goes s p.2) (id : Uuid) :
    id ∈ announcements (runDeeds run) ↔ ∃ before e work rest,
      runDeeds run = before ++ .stored e :: .ended (some work) :: rest ∧ e.id = id :=
  (honest_runDeeds h).mem_announcements_iff

/-! ### An endpoint that is never announced -/

/-- The endpoint that a command links a trace to. -/
def Command.linked? : Command → Option Uuid
  | insertTrace _ endpointId _ => endpointId
  | markAnalyzed _ endpointId | linkTraces endpointId _ => some endpointId
  | _ => none

/-- The endpoints that were stored. -/
def storedIds (ds : List Deed) : List Uuid :=
  ds.filterMap fun d =>
    match d with
    | .stored e => some e.id
    | .ended _ => none

/-- The endpoints that traces were linked to in committed transactions. -/
def linkedIds (ds : List Deed) : List Uuid :=
  ds.flatMap fun d =>
    match d with
    | .ended (some work) => work.filterMap fun s => s.command.linked?
    | _ => []

/-- A trace of a path. -/
def plainTrace (n : Nat) : Trace := .bare (.ofNat n) ⟨0, 0⟩ "api.local" "GET" "/users" 200

/-- The database refuses to commit the first transaction. -/
def refusingClerk : Clerk :=
  { plan := List.replicate 15 none ++ [some (.server (some "53100") "disk full")] }

/-- The clerk after the first of two traces of a path. -/
def laterClerk : Clerk :=
  (refusingClerk.attend (Service.plain.process 0 .standard (plainTrace 1))).2

/-- Two traces of a path, the first of which is not committed. -/
def refusedRun : List (Call × List Event) :=
  [(.process 0 .standard (plainTrace 1),
      refusingClerk.transcript (Service.plain.process 0 .standard (plainTrace 1))),
    (.process 0 .standard (plainTrace 2),
      laterClerk.transcript (Service.plain.process 0 .standard (plainTrace 2)))]

theorem goes_refusedRun : ∀ p ∈ refusedRun, p.1.Goes Service.plain p.2 := by
  simp only [refusedRun, List.forall_mem_cons, List.not_mem_nil, false_implies, implies_true,
    and_true]
  exact ⟨⟨_, refusingClerk.yields_transcript _⟩, ⟨_, laterClerk.yields_transcript _⟩⟩

theorem announced_iff_committed_refused :
    Uuid.ofNat 0 ∈ linkedIds (runDeeds refusedRun) ∧
      (Uuid.ofNat 0 ∈ announcements (runDeeds refusedRun) ↔ ∃ before e work rest,
        runDeeds refusedRun = before ++ .stored e :: .ended (some work) :: rest ∧
          e.id = .ofNat 0) :=
  ⟨by decide +kernel, announced_iff_committed goes_refusedRun (.ofNat 0)⟩

/-- The first call stores an endpoint, and the second one commits a trace that is linked to it. The
endpoint is not announced. -/
theorem exists_linked_not_announced :
    ∃ (first second : Call × List Event) (id : Uuid),
      first.1.Goes Service.plain first.2 ∧ second.1.Goes Service.plain second.2 ∧
        id ∈ storedIds (first.1.deeds first.2) ∧ id ∈ linkedIds (second.1.deeds second.2) ∧
        id ∉ announcements (runDeeds [first, second]) := by
  refine ⟨_, _, .ofNat 0, goes_refusedRun _ List.mem_cons_self,
    goes_refusedRun _ (List.mem_cons_of_mem _ List.mem_cons_self), ?_, ?_, ?_⟩
  · decide +kernel
  · decide +kernel
  · decide +kernel

end TrafficLens
