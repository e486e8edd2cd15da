import TrafficLens.Proofs.Service.Paging
import TrafficLens.Proofs.Service.Processing

/-!
# Jobs on a connection that holds

A transcript is *connected* if none of its replies says that the connection is lost. On a connected
transcript single operations are steady: if one fails then not with a lost connection
(`Attempt.Steady`). Other failures of traces and groups are counted, and the job goes on, so what it
does with a page is tenacious: it succeeds (`Attempt.Tenacious`, `Service.tenacious_visitUnlinked`,
`Service.tenacious_visitUnanalyzed`). The rules for both follow the text of attempts. They say at
the same time that no page is fetched on the way, and so a job is its pages with a beginning and an
end (`Service.jobYields_backfill`, `Service.jobYields_sweep`).
-/

namespace TrafficLens

open Attempt

variable {α β : Type}

/-! ## Connected transcripts -/

/-- The failure that was replied. -/
def Event.failure? : Event → Option Failure
  | ⟨.command .., .error e⟩ | ⟨.shared _, .error e⟩ | ⟨.checkout, .error e⟩
  | ⟨.openLevel _, .error e⟩ | ⟨.commitLevel _, .error e⟩ | ⟨.rollbackLevel _, .error e⟩ =>
    some (.database e)
  | ⟨.store _, .error f⟩ | ⟨.pushItem _, .error f⟩ | ⟨.popItem, .error f⟩ => some f
  | _ => none

/-- No reply says that the connection is lost. -/
def Connected (es : List Event) : Prop := ∀ e ∈ es, ∀ f ∈ e.failure?, f.losesConnection = false

instance (es : List Event) : Decidable (Connected es) :=
  inferInstanceAs (Decidable (∀ e ∈ es, ∀ f ∈ e.failure?, f.losesConnection = false))

theorem connected_append {es₁ es₂ : List Event} :
    Connected (es₁ ++ es₂) ↔ Connected es₁ ∧ Connected es₂ :=
  List.forall_mem_append

theorem connected_cons {e : Event} {es : List Event} :
    Connected (e :: es) ↔ (∀ f ∈ e.failure?, f.losesConnection = false) ∧ Connected es :=
  List.forall_mem_cons

/-- The outcome does not say that the connection is lost. -/
def HoldsConnection (x : Except Failure α) : Prop := ∀ f, x = .error f → f.losesConnection = false

theorem holdsConnection_ok (v : α) : HoldsConnection (.ok v) := nofun

theorem holdsConnection_error {f : Failure} :
    HoldsConnection (.error f : Except Failure α) ↔ f.losesConnection = false :=
  ⟨fun h => h f rfl, fun h _ hf => Except.error.inj hf ▸ h⟩

/-- The outcome is a value. -/
def Succeeds (x : Except Failure α) : Prop := ∃ v, x = .ok v

theorem succeeds_ok (v : α) : Succeeds (.ok v) := ⟨v, rfl⟩

theorem not_succeeds_error {f : Failure} : ¬ Succeeds (.error f : Except Failure α) := by
  rintro ⟨v, hv⟩
  cases hv

theorem Succeeds.holdsConnection {x : Except Failure α} (h : Succeeds x) : HoldsConnection x := by
  obtain ⟨v, rfl⟩ := h
  exact holdsConnection_ok v

/-! ## Attempts on connected transcripts -/

namespace Attempt

/-- The attempt fetches no page, and on a connected transcript its outcome satisfies the
condition. -/
structure Endures (W : Except Failure α → Prop) (a : Attempt α) : Prop where
  pageless : Asks Request.Pageless a
  ends : ∀ ⦃es x⦄, a.Yields es x → Connected es → W x

variable {W : Except Failure α → Prop} {V : Except Failure β → Prop} {a : Attempt α}
  {f : α → Attempt β}

theorem Endures.mono {W' : Except Failure α → Prop} (h : Endures W a) (hW : ∀ x, W x → W' x) :
    Endures W' a :=
  ⟨h.pageless, fun _ _ hy hes => hW _ (h.ends hy hes)⟩

theorem endures_pure {v : α} (h : W (.ok v)) : Endures W (pure v : Attempt α) where
  pageless := asks_pure v
  ends := by
    rintro es x ⟨rfl, rfl⟩ -
    exact h

theorem endures_throw {f : Failure} (h : W (.error f)) : Endures W (throw f : Attempt α) where
  pageless := asks_throw f
  ends := by
    rintro es x ⟨rfl, rfl⟩ -
    exact h

theorem Endures.bind (ha : Endures W a) (hfail : ∀ e, W (.error e) → V (.error e))
    (hf : ∀ v, Endures V (f v)) : Endures V (a >>= f) where
  pageless := ha.pageless.bind fun v => (hf v).pageless
  ends := by
    intro es y hy hes
    obtain ⟨e, rfl, h⟩ | ⟨es₁, es₂, v, rfl, h₁, h₂⟩ := yields_bind.1 hy
    · exact hfail e (ha.ends h hes)
    · exact (hf v).ends h₂ (connected_append.1 hes).2

/-- What follows the outcome of an attempt may count on what the attempt ends with. -/
theorem Endures.outcome_bind {f : Except Failure α → Attempt β} (ha : Endures W a)
    (hf : ∀ x, Endures (fun y => W x → V y) (f x)) : Endures V (a.outcome >>= f) where
  pageless := ha.pageless.outcome.bind fun x => (hf x).pageless
  ends := by
    intro es y hy hes
    obtain ⟨es₁, es₂, x, rfl, h₁, h₂⟩ := yields_outcome_bind.1 hy
    obtain ⟨hes₁, hes₂⟩ := connected_append.1 hes
    exact (hf x).ends h₂ hes₂ (ha.ends h₁ hes₁)

/-! ### Attempts that only a lost connection can stop -/

/-- On a connected transcript the attempt succeeds. -/
abbrev Tenacious (a : Attempt α) : Prop := Endures Succeeds a

theorem tenacious_pure (v : α) : Tenacious (pure v : Attempt α) := endures_pure (succeeds_ok v)

theorem Tenacious.bind (ha : Tenacious a) (hf : ∀ v, Tenacious (f v)) : Tenacious (a >>= f) :=
  Endures.bind ha (fun _ h => (not_succeeds_error h).elim) hf

/-- It succeeds also where that is asked for on a condition. -/
theorem Tenacious.given {K : Prop} (h : Tenacious a) : Endures (fun x => K → Succeeds x) a :=
  h.mono fun _ hx _ => hx

theorem tenacious_ask {r : Request} (h : r.Pageless) : Tenacious (ask r) where
  pageless := asks_ask h
  ends := by
    intro es x hy _
    obtain ⟨reply, -, rfl⟩ := yields_ask.1 hy
    exact succeeds_ok reply

/-! ### Attempts that hold the connection -/

/-- On a connected transcript the attempt does not come to think that the connection is lost. -/
abbrev Steady (a : Attempt α) : Prop := Endures HoldsConnection a

theorem steady_pure (v : α) : Steady (pure v : Attempt α) := endures_pure (holdsConnection_ok v)

theorem Steady.bind (ha : Steady a) (hf : ∀ v, Steady (f v)) : Steady (a >>= f) :=
  Endures.bind ha (fun _ h => holdsConnection_error.2 (holdsConnection_error.1 h)) hf

/-- A part that may be left out, with a value in its place. -/
theorem Steady.bind_of_isTrue {b : Bool} (ha : Steady a) (v : α) (hf : ∀ v, Steady (f v)) :
    Steady (if b then f v else a >>= f) := by
  cases b
  · exact ha.bind hf
  · exact hf v

theorem steady_ask {r : Request} (h : r.Pageless) : Steady (ask r) :=
  (tenacious_ask h).mono fun _ hx => hx.holdsConnection

theorem steady_send {route : Route} {t : Tenant} {command : Command}
    (h : Request.Pageless (.command route t command)) : Steady (send route t command) where
  pageless := asks_send h
  ends := by
    intro es x hy hes
    obtain ⟨reply, rfl, rfl⟩ := yields_send.1 hy
    cases reply with
    | ok v => exact holdsConnection_ok v
    | error e => exact holdsConnection_error.2 (hes _ (List.mem_singleton.2 rfl) _ rfl)

theorem steady_askMemory (call : StoreCall) : Steady (EndpointStore.askMemory call) where
  pageless := (asks_ask trivial).bind fun _ => asks_ofExcept _
  ends := by
    intro es x hy hes
    obtain ⟨reply, rfl, rfl⟩ := yields_askMemory.1 hy
    cases x with
    | ok v => exact holdsConnection_ok v
    | error f => exact holdsConnection_error.2 (hes _ (List.mem_singleton.2 rfl) _ rfl)

/-! ### Levels and tries -/

variable {c : ConnectionId}

theorem steady_rollbackLevel : Steady (rollbackLevel c) where
  pageless := asks_rollbackLevel trivial
  ends := by
    intro es x hy hes
    obtain ⟨reply, rfl, rfl⟩ := yields_rollbackLevel.1 hy
    cases reply with
    | ok v => exact holdsConnection_ok v
    | error e => exact holdsConnection_error.2 (hes _ (List.mem_singleton.2 rfl) _ rfl)

/-- A level holds the connection if what follows a failure does. The failure itself may be counted
on to hold it. -/
theorem Steady.level {next : Failure → Attempt α} (h : Steady a)
    (hnext : ∀ f, Endures (fun x => f.losesConnection = false → HoldsConnection x) (next f)) :
    Steady (do
      openLevel c
      match ← a.outcome with
      | .ok v =>
        commitLevel c
        pure v
      | .error f => next f) where
  pageless := h.pageless.level trivial trivial fun f => (hnext f).pageless
  ends := by
    intro es x hy hes
    cases yields_level hy with
    | unopened e => exact holdsConnection_error.2 (hes _ List.mem_cons_self _ rfl)
    | uncommitted e _ =>
      have hlast := (connected_append.1 (connected_cons.1 hes).2).2
      exact holdsConnection_error.2 (hlast _ List.mem_cons_self _ rfl)
    | committed _ => exact holdsConnection_ok _
    | @failed es rest f _ hbody hrest =>
      obtain ⟨hes, hrests⟩ := connected_append.1 (connected_cons.1 hes).2
      exact (hnext f).ends hrest hrests (h.ends hbody hes f rfl)

theorem Steady.transaction (h : Steady a) : Steady (transaction c a) :=
  h.level fun _ => steady_rollbackLevel.outcome_bind fun _ =>
    endures_throw fun _ hf => holdsConnection_error.2 hf

theorem Steady.retryStep {p : RetryPolicy} (h : Steady a) : Steady (retryStep p c a) := by
  -- A rollback that fails takes the place of the failure of the step.
  have hrollback : ∀ {f : Failure} {next : Unit → Attempt α},
      (∀ v, Endures (fun x => f.losesConnection = false → HoldsConnection x) (next v)) →
        Endures (fun x => f.losesConnection = false → HoldsConnection x)
          (rollbackLevel c >>= next) :=
    fun hnext => Endures.bind steady_rollbackLevel
      (fun _ he _ => holdsConnection_error.2 (holdsConnection_error.1 he)) hnext
  have hfrom : ∀ left failures, Steady (retryStepFrom p c a left failures) := by
    intro left
    induction left with
    | zero =>
      intro failures
      rw [retryStepFrom]
      exact h.level fun f => hrollback fun _ => endures_throw holdsConnection_error.2
    | succ left ih =>
      intro failures
      rw [retryStepFrom]
      refine h.level fun f => hrollback fun _ => ?_
      dsimp only
      split
      · exact ((steady_ask (r := .wait _) trivial).bind fun _ => ih (failures + 1)).mono
          fun _ hx _ => hx
      · exact endures_throw holdsConnection_error.2
  exact hfrom p.retries 0

theorem Steady.retryQuery {p : RetryPolicy} (h : Steady a) : Steady (retryQuery p a) where
  pageless := h.pageless.retryQuery fun _ => trivial
  ends := by
    intro es x hy hes
    obtain ⟨before, last, rfl, hlast, -⟩ := yields_retryQuery hy
    exact h.ends hlast (connected_append.1 hes).2

end Attempt

/-! ## Single operations -/

section Operations

variable {t : Tenant}

theorem steady_query {p : RetryPolicy} {command : Command}
    (h : Request.Pageless (.command .free t command)) :
    Steady (retryQuery p (send .free t command)) :=
  (steady_send h).retryQuery

namespace EndpointStore

variable (store : EndpointStore)

theorem steady_findMatch (host method path : String) :
    Steady (store.findMatch t host method path) := by
  cases store with
  | memory => exact steady_askMemory _
  | database retry => exact steady_query trivial

theorem steady_findExact (host method template : String) :
    Steady (store.findExact t host method template) := by
  cases store with
  | memory => exact steady_askMemory _
  | database retry => exact steady_query trivial

theorem steady_findById (id : Uuid) : Steady (store.findById t id) := by
  cases store with
  | memory => exact steady_askMemory _
  | database retry => exact steady_query trivial

theorem steady_insert (e : Endpoint) : Steady (store.insert t e) := by
  cases store with
  | memory => exact steady_askMemory _
  | database retry =>
    refine (steady_query (by trivial)).outcome_bind fun x => ?_
    cases x with
    | ok n => exact endures_pure fun _ => holdsConnection_ok _
    | error f =>
      unfold insertOutcome
      dsimp only
      split
      · exact endures_pure fun _ => holdsConnection_ok _
      · exact endures_throw fun hf => holdsConnection_error.2 (holdsConnection_error.1 hf)

end EndpointStore

theorem Resolver.steady_find (r : Resolver) (host method path : String) :
    Steady (r.find t host method path) :=
  (r.store.steady_findMatch host method path).bind fun _ => steady_pure _

namespace Service

variable (s : Service) (c : ConnectionId)

theorem steady_step {command : Command} (h : Request.Pageless (.command (.held c) t command)) :
    Steady (s.step c t command) :=
  ((steady_send h).bind fun _ => steady_pure ()).retryStep

theorem steady_linkGroup (endpointId : Uuid) (group : TraceGroup) (alert : Option Alert) :
    Steady (s.linkGroup c t endpointId group alert) := by
  refine Steady.transaction ?_
  refine (s.steady_step c (by trivial)).bind fun _ => (s.steady_step c (by trivial)).bind fun _ => ?_
  cases alert with
  | none => exact steady_pure ()
  | some a => exact s.steady_step c (by trivial)

theorem steady_placeEndpoint (p : PendingEndpoint) : Steady (s.placeEndpoint t p) := by
  refine (steady_ask (r := .freshIds) trivial).bind fun ids =>
    (s.resolver.store.steady_insert _).bind fun outcome => ?_
  cases outcome with
  | inserted => exact steady_pure _
  | conflict => exact (s.resolver.store.steady_findExact _ _ _).bind fun _ => steady_pure _

theorem steady_loadUploaded (e : Endpoint) : Steady (loadUploaded c t e) := by
  unfold loadUploaded
  cases e.documentName with
  | none => exact steady_pure _
  | some name =>
    by_cases huploaded : e.hasUploadedDocument
    · simp only [huploaded]
      exact steady_send (by trivial)
    · simp only [huploaded]
      exact steady_pure _

theorem steady_upsertFields (fields : List Field) : Steady (upsertFields (.held c) t fields) := by
  induction fields with
  | nil => exact steady_pure ()
  | cons f rest ih => exact (steady_send (by trivial)).bind fun _ => ih

theorem steady_insertAlerts (alerts : List Alert) : Steady (insertAlerts (.held c) t alerts) := by
  induction alerts with
  | nil => exact steady_pure 0
  | cons a rest ih => exact (steady_send (by trivial)).bind fun _ => ih.bind fun _ => steady_pure _

theorem steady_persist (trace : Trace) (write : TraceWrite) (fields : List Field)
    (alerts : List Alert) (update : EndpointUpdate) :
    Steady (s.persist c t trace write fields alerts update) := by
  have hwrite : Request.Pageless (.command (.held c) t (write.command trace update.id)) := by
    cases write <;> trivial
  exact (s.steady_step c hwrite).bind fun _ =>
    (steady_upsertFields c fields).retryStep.bind_of_isTrue () fun _ =>
      (steady_insertAlerts c alerts).retryStep.bind_of_isTrue 0 fun n =>
        (s.steady_step c (by trivial)).bind fun _ => steady_pure n

theorem steady_analyze (endpoint : Endpoint) (trace : Trace) (isNew : Bool) (write : TraceWrite) :
    Steady (s.analyze c t endpoint trace isNew write) :=
  (steady_loadUploaded c _).bind fun _ => Steady.transaction <|
    (s.steady_step c (by trivial)).bind fun _ => (steady_send (by trivial)).bind fun _ =>
      (steady_ask (r := .freshIds) trivial).bind fun _ =>
        (steady_ask (r := .freshIds) trivial).bind fun _ =>
          (s.steady_persist c _ _ _ _ _).bind fun _ => steady_pure _

/-! ## Pages -/

/-- What is left to count a failure in a report: the run goes on unless the connection is lost. -/
theorem endures_countFailure (report : BackfillReport) (size : Nat) (f : Failure) :
    Endures (fun x => f.losesConnection = false → Succeeds x) (report.countFailure size f) := by
  unfold BackfillReport.countFailure
  split
  · next hlost => exact endures_throw fun hkept => absurd hlost (by simp [hkept])
  · exact endures_pure fun _ => succeeds_ok _

theorem endures_countLinked (report : BackfillReport) (size : Nat) (x : Except Failure Unit) :
    Endures (fun y => HoldsConnection x → Succeeds y) (countLinked report size x) := by
  cases x with
  | ok _ => exact (tenacious_pure _).given
  | error f =>
    exact (endures_countFailure report size f).mono fun _ h hx => h (holdsConnection_error.1 hx)

theorem tenacious_sortTrace (trace : Trace) (page : SortedPage) (report : BackfillReport) :
    Tenacious (s.sortTrace t trace page report) := by
  unfold sortTrace
  dsimp only
  split
  · exact tenacious_pure _
  · refine Endures.outcome_bind (s.resolver.steady_find _ _ _) fun x => ?_
    rcases x with f | _ | endpoint
    · exact (endures_countFailure report 1 f).bind
        (fun _ h hx => (not_succeeds_error (h (holdsConnection_error.1 hx))).elim)
        fun _ => (tenacious_pure _).given
    · exact (tenacious_pure _).given
    · exact (tenacious_pure _).given

theorem tenacious_sort (traces : List Trace) (page : SortedPage) (report : BackfillReport) :
    Tenacious (s.sort t page report traces) := by
  induction traces generalizing page report with
  | nil => exact tenacious_pure _
  | cons trace rest ih =>
    exact (s.tenacious_sortTrace trace page report).bind fun sorted => ih sorted.1 sorted.2

theorem tenacious_linkMatched (groups : List (Uuid × TraceGroup)) (report : BackfillReport) :
    Tenacious (s.linkMatched c t report groups) := by
  induction groups generalizing report with
  | nil => exact tenacious_pure _
  | cons g rest ih =>
    exact Endures.outcome_bind (s.steady_linkGroup c g.1 g.2 none) fun x =>
      (endures_countLinked report _ x).bind (fun _ h hx => (not_succeeds_error (h hx)).elim)
        fun report => (ih report).given

theorem tenacious_linkNew (report : BackfillReport) (p : PendingEndpoint) :
    Tenacious (s.linkNew c t report p) := by
  refine Endures.outcome_bind (s.steady_placeEndpoint p) fun x => ?_
  rcases x with f | _ | ⟨endpoint, isNew⟩
  · exact (endures_countFailure report _ f).mono fun _ h hx => h (holdsConnection_error.1 hx)
  · exact (tenacious_pure _).given
  · have hlink : ∀ report alert, Tenacious ((s.linkGroup c t endpoint.id p.group alert).outcome >>=
        countLinked report p.group.traceIds.length) := fun report alert =>
      Endures.outcome_bind (s.steady_linkGroup c endpoint.id p.group alert) fun x =>
        endures_countLinked report _ x
    exact ((tenacious_ask (r := .freshIds) trivial).bind fun _ => hlink _ _).given

theorem tenacious_linkPending (pending : List PendingEndpoint) (report : BackfillReport) :
    Tenacious (s.linkPending c t report pending) := by
  induction pending generalizing report with
  | nil => exact tenacious_pure _
  | cons p rest ih => exact (s.tenacious_linkNew c report p).bind fun report => ih report

/-- **Only a lost connection stops the backfill in a page.** -/
theorem tenacious_visitUnlinked (report : BackfillReport) (traces : List Trace) :
    Tenacious (s.visitUnlinked c t report traces) :=
  (s.tenacious_sort traces {} _).bind fun sorted =>
    (s.tenacious_linkMatched c sorted.1.matched sorted.2).bind fun report =>
      s.tenacious_linkPending c sorted.1.pending report

theorem tenacious_sweepLinked (report : SweepReport) (trace : Trace) (endpointId : Uuid) :
    Tenacious (s.sweepLinked c t report trace endpointId) := by
  refine Endures.outcome_bind (s.resolver.store.steady_findById endpointId) fun x => ?_
  rcases x with f | _ | endpoint
  · exact (tenacious_pure _).given
  · exact (tenacious_pure _).given
  · refine Tenacious.given (Endures.outcome_bind (s.steady_analyze c endpoint trace false _) ?_)
    rintro (f | analysis)
    · dsimp only
      split
      · next hlost =>
        exact endures_throw fun hx => absurd hlost (by simp [holdsConnection_error.1 hx])
      · exact (tenacious_pure _).given
    · exact (tenacious_pure _).given

/-- **Only a lost connection stops the sweep in a page.** -/
theorem tenacious_visitUnanalyzed (report : SweepReport) (traces : List Trace) :
    Tenacious (s.visitUnanalyzed c t report traces) := by
  have hpage : ∀ report, Tenacious (s.sweepPage c t report traces) := by
    induction traces with
    | nil => exact fun report => tenacious_pure report
    | cons trace rest ih =>
      intro report
      rw [sweepPage]
      split
      · exact ih report
      · exact (s.tenacious_sweepLinked c report trace _).bind fun report => ih report
  exact hpage _

/-! ## Documents -/

theorem steady_mergeEndpoints (since : Option Instant) (cutoff : Instant)
    (endpoints : List Endpoint) (tree : Json) (merged : Nat) :
    Steady (mergeEndpoints c t since cutoff tree merged endpoints) := by
  induction endpoints generalizing tree merged with
  | nil => exact steady_pure _
  | cons e rest ih => exact (steady_send (by trivial)).bind fun _ => ih _ _

theorem steady_generateHost (cutoff : Instant) (report : GenerationReport) (host : String)
    (endpoints : List Endpoint) : Steady (s.generateHost c t cutoff report host endpoints) := by
  refine (steady_send (by trivial)).bind fun (stored : Option Document) => ?_
  dsimp only
  split
  · exact steady_pure _
  · refine (steady_mergeEndpoints c _ cutoff endpoints _ 0).bind fun merged => ?_
    split
    · exact steady_pure _
    · exact ((s.steady_step c (by trivial)).bind fun _ =>
        s.steady_step c (by trivial)).transaction.bind fun _ => steady_pure _

theorem steady_generateHosts (cutoff : Instant) (hosts : List (String × List Endpoint))
    (report : GenerationReport) : Steady (s.generateHosts c t cutoff report hosts) := by
  induction hosts generalizing report with
  | nil => exact steady_pure _
  | cons host rest ih =>
    exact (s.steady_generateHost c cutoff report host.1 host.2).bind fun report => ih report

/-- Bringing the documents up to date fetches no page. -/
theorem pageless_generate : Asks Request.Pageless (s.generate t) := by
  refine (asks_ask trivial).bind fun cutoff => Asks.withConnection trivial (fun _ => trivial) ?_
  exact fun c => (asks_send (by trivial)).bind fun (endpoints : List Endpoint) =>
    (s.steady_generateHosts c cutoff (endpointsByHost endpoints) {}).pageless

/-! ## Jobs -/

variable {es : List Event}

/-- What the backfill goes through is the listing of the traces without an endpoint. -/
theorem jobYields_backfill {x : Except Failure BackfillReport} (hy : (s.backfill t).Yields es x) :
    Listing.unlinked.JobYields t (max s.settings.jobs.backfillBatchSize 1) (s.visitUnlinked · t)
      s.maxPages {} (fun report report' => ∃ n, report' = { report with documentsUpdated := n })
      es x := by
  obtain ⟨cutoff, rest, rfl, hjob⟩ := yields_currentTime_bind hy
  obtain ⟨e, rfl, rfl⟩ | ⟨c, inside, rfl, hbody⟩ := yields_withConnection hjob
  · exact .unconnected cutoff e
  rw [linkPages_eq] at hbody
  obtain ⟨f, rfl, hpaging⟩ | ⟨paging, after, report, rfl, hpaging, hrest⟩ := yields_bind.1 hbody
  · exact .connected cutoff c (Listing.goesThrough hpaging) (by simp [Request.Pageless]) nofun
  rw [List.append_assoc]
  refine .connected cutoff c (Listing.goesThrough hpaging) ?_ ?_
  · have hafter := (s.pageless_generate (t := t)).bind fun generation => asks_pure
      (P := Request.Pageless) { report with documentsUpdated := generation.documentsUpdated }
    rw [List.forall_mem_append]
    exact ⟨hafter hrest, by simp [Request.Pageless]⟩
  · rintro report' rfl
    obtain ⟨f, hf, -⟩ | ⟨_, _, generation, -, -, hlast⟩ := yields_bind.1 hrest
    · cases hf
    · obtain ⟨-, hreport⟩ := yields_pure.1 hlast
      exact ⟨report, rfl, generation.documentsUpdated, Except.ok.inj hreport⟩

/-- What the sweep goes through is the listing of the traces that wait for their analysis. -/
theorem jobYields_sweep {x : Except Failure SweepReport} (hy : (s.sweep t).Yields es x) :
    Listing.unanalyzed.JobYields t (max s.settings.jobs.sweepBatchSize 1) (s.visitUnanalyzed · t)
      s.maxPages {} (fun report report' => report' = report) es x := by
  obtain ⟨cutoff, rest, rfl, hjob⟩ := yields_currentTime_bind hy
  obtain ⟨e, rfl, rfl⟩ | ⟨c, inside, rfl, hpaging⟩ := yields_withConnection hjob
  · exact .unconnected cutoff e
  rw [sweepPages_eq] at hpaging
  exact .connected cutoff c (Listing.goesThrough hpaging) (by simp [Request.Pageless])
    fun report hx => ⟨report, hx, rfl⟩

end Service

end Operations

end TrafficLens
