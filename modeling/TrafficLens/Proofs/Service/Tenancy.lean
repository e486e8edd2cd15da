import TrafficLens.Proofs.Program.Uniform
import TrafficLens.Service.Job
import TrafficLens.Service.Worker

/-!
# Operations are alike for all tenants

Whatever the service does for a tenant is uniform: what it does with a queued trace
(`Service.uniform_process`) and all of its jobs (`Service.uniform_runJob`). This is shown along the
text of the operations, from the store of endpoints up.
-/

namespace TrafficLens

open Attempt

/-! ## Finding and making endpoints -/

namespace EndpointStore

theorem uniform_askMemory (call : StoreCall) : Uniform fun _ => askMemory call :=
  (uniform_ask (r := .store call) trivial).bind uniform_ofExcept

theorem uniform_findMatch (store : EndpointStore) (host method path : String) :
    Uniform fun t => store.findMatch t host method path := by
  cases store with
  | memory => exact uniform_askMemory _
  | database retry => exact (uniform_send .free _).retryQuery

theorem uniform_findExact (store : EndpointStore) (host method template : String) :
    Uniform fun t => store.findExact t host method template := by
  cases store with
  | memory => exact uniform_askMemory _
  | database retry => exact (uniform_send .free _).retryQuery

theorem uniform_findById (store : EndpointStore) (id : Uuid) :
    Uniform fun t => store.findById t id := by
  cases store with
  | memory => exact uniform_askMemory _
  | database retry => exact (uniform_send .free _).retryQuery

theorem uniform_insertOutcome (x : Except Failure Nat) : Uniform fun _ => insertOutcome x := by
  cases x with
  | ok n => exact uniform_pure _
  | error f =>
    unfold insertOutcome
    dsimp only
    split
    · exact uniform_pure _
    · exact uniform_throw _

theorem uniform_insert (store : EndpointStore) (e : Endpoint) :
    Uniform fun t => store.insert t e := by
  cases store with
  | memory => exact uniform_askMemory _
  | database retry => exact (uniform_send .free _).retryQuery.outcome.bind uniform_insertOutcome

end EndpointStore

namespace Resolver

variable (r : Resolver)

theorem uniform_find (host method path : String) : Uniform fun t => r.find t host method path :=
  (r.store.uniform_findMatch host method path).bind fun _ => uniform_pure _

theorem uniform_create (host method : String) (template : PathTemplate) :
    Uniform fun t => r.create t host method template := by
  refine uniform_freshIds.bind fun ids => (r.store.uniform_insert _).outcome.bind fun x => ?_
  rcases x with f | _ | _
  · exact uniform_pure _
  · exact uniform_pure _
  · refine (r.store.uniform_findExact host method template.path).bind fun found => ?_
    cases found <;> exact uniform_pure _

theorem uniform_resolve (trace : Trace) : Uniform fun t => r.resolve t trace := by
  unfold resolve
  dsimp only
  split
  · exact uniform_pure _
  · refine (r.uniform_find _ _ _).bind fun found => ?_
    cases found with
    | some e => exact uniform_pure _
    | none =>
      dsimp only
      split
      · exact uniform_pure _
      · split
        · exact r.uniform_create _ _ _
        · exact uniform_pure _

end Resolver

/-! ## Processing -/

section Writes

variable (route : Route)

theorem uniform_insertAlerts (alerts : List Alert) :
    Uniform fun t => insertAlerts route t alerts := by
  induction alerts with
  | nil => exact uniform_pure 0
  | cons a rest ih => exact (uniform_send route _).bind fun _ => ih.bind fun _ => uniform_pure _

theorem uniform_upsertFields (fields : List Field) :
    Uniform fun t => upsertFields route t fields := by
  induction fields with
  | nil => exact uniform_pure ()
  | cons f rest ih => exact (uniform_send route _).bind fun _ => ih

end Writes

namespace Service

variable (s : Service) (c : ConnectionId)

theorem uniform_step (command : Command) : Uniform fun t => s.step c t command :=
  ((uniform_send (.held c) command).bind fun _ => uniform_pure ()).retryStep

theorem uniform_loadUploaded (e : Endpoint) : Uniform fun t => loadUploaded c t e := by
  unfold loadUploaded
  cases e.documentName with
  | none => exact uniform_pure _
  | some name =>
    by_cases huploaded : e.hasUploadedDocument
    · simp only [huploaded]
      exact uniform_send _ _
    · simp only [huploaded]
      exact uniform_pure _

theorem uniform_persist (trace : Trace) (write : TraceWrite) (fields : List Field)
    (alerts : List Alert) (update : EndpointUpdate) :
    Uniform fun t => s.persist c t trace write fields alerts update := by
  refine (s.uniform_step c _).bind fun _ => ?_
  have hrest : Uniform fun t => (do
      let inserted ←
        if alerts.isEmpty then pure 0 else retryStep s.retry c (insertAlerts (.held c) t alerts)
      s.step c t (.updateEndpoint update)
      pure inserted) := by
    cases alerts with
    | nil => exact (uniform_step s c _).bind fun _ => uniform_pure _
    | cons a rest =>
      exact (uniform_insertAlerts (.held c) (a :: rest)).retryStep.bind fun _ =>
        (uniform_step s c _).bind fun _ => uniform_pure _
  cases fields with
  | nil => exact hrest
  | cons f rest => exact (uniform_upsertFields (.held c) (f :: rest)).retryStep.bind fun _ => hrest

theorem uniform_analyzeLocked (endpoint : Endpoint) (trace : Trace) (isNew : Bool)
    (write : TraceWrite) (document : Option Json) :
    Uniform fun t => s.analyzeLocked c t endpoint trace isNew write document :=
  (s.uniform_step c _).bind fun _ => (uniform_send _ _).bind fun _ =>
    uniform_freshIds.bind fun _ => uniform_freshIds.bind fun _ =>
      (s.uniform_persist c _ _ _ _ _).bind fun _ => uniform_pure _

theorem uniform_analyze (endpoint : Endpoint) (trace : Trace) (isNew : Bool) (write : TraceWrite) :
    Uniform fun t => s.analyze c t endpoint trace isNew write :=
  (uniform_loadUploaded c _).bind fun document =>
    (s.uniform_analyzeLocked c _ _ _ _ document).transaction

/-- **Processing a trace is alike for all tenants.** -/
theorem uniform_process (trace : Trace) : Uniform fun t => s.process c t trace := by
  refine (s.resolver.uniform_resolve _).bind fun resolution => ?_
  cases resolution with
  | resolved endpoint isNew =>
    exact (s.uniform_analyze c endpoint _ isNew .insert).bind fun _ => uniform_pure _
  | unresolvable => exact uniform_pure _
  | deferred => exact (s.uniform_step c _).bind fun _ => uniform_pure _

/-! ## Linking -/

theorem uniform_countFailure (report : BackfillReport) (size : Nat) (f : Failure) :
    Uniform fun _ => report.countFailure size f := by
  unfold BackfillReport.countFailure
  split
  · exact uniform_throw f
  · exact uniform_pure _

theorem uniform_sortTrace (trace : Trace) (page : SortedPage) (report : BackfillReport) :
    Uniform fun t => s.sortTrace t trace page report := by
  unfold sortTrace
  dsimp only
  split
  · exact uniform_pure _
  · refine (s.resolver.uniform_find _ _ _).outcome.bind fun x => ?_
    rcases x with f | _ | endpoint
    · exact (uniform_countFailure report 1 f).bind fun _ => uniform_pure _
    · exact uniform_pure _
    · exact uniform_pure _

theorem uniform_sort (traces : List Trace) (page : SortedPage) (report : BackfillReport) :
    Uniform fun t => s.sort t page report traces := by
  induction traces generalizing page report with
  | nil => exact uniform_pure _
  | cons trace rest ih => exact (s.uniform_sortTrace trace page report).bind fun x => ih x.1 x.2

theorem uniform_linkGroup (endpointId : Uuid) (group : TraceGroup) (alert : Option Alert) :
    Uniform fun t => s.linkGroup c t endpointId group alert := by
  refine Uniform.transaction ?_
  refine (s.uniform_step c _).bind fun _ => (s.uniform_step c _).bind fun _ => ?_
  cases alert with
  | none => exact uniform_pure ()
  | some a => exact s.uniform_step c _

theorem uniform_countLinked (report : BackfillReport) (size : Nat) (x : Except Failure Unit) :
    Uniform fun _ => countLinked report size x := by
  cases x with
  | ok _ => exact uniform_pure _
  | error f => exact uniform_countFailure report size f

theorem uniform_linkMatched (groups : List (Uuid × TraceGroup)) (report : BackfillReport) :
    Uniform fun t => s.linkMatched c t report groups := by
  induction groups generalizing report with
  | nil => exact uniform_pure _
  | cons g rest ih =>
    exact (s.uniform_linkGroup c g.1 g.2 none).outcome.bind fun x =>
      (uniform_countLinked report _ x).bind fun report => ih report

theorem uniform_placeEndpoint (p : PendingEndpoint) : Uniform fun t => s.placeEndpoint t p := by
  refine uniform_freshIds.bind fun ids => (s.resolver.store.uniform_insert _).bind fun x => ?_
  cases x with
  | inserted => exact uniform_pure _
  | conflict => exact (s.resolver.store.uniform_findExact _ _ _).bind fun _ => uniform_pure _

theorem uniform_linkNew (report : BackfillReport) (p : PendingEndpoint) :
    Uniform fun t => s.linkNew c t report p := by
  refine (s.uniform_placeEndpoint p).outcome.bind fun x => ?_
  rcases x with f | _ | ⟨endpoint, isNew⟩
  · exact uniform_countFailure report _ f
  · exact uniform_pure _
  · exact uniform_freshIds.bind fun _ => (s.uniform_linkGroup c _ _ _).outcome.bind fun x =>
      uniform_countLinked _ _ x

theorem uniform_linkPending (pending : List PendingEndpoint) (report : BackfillReport) :
    Uniform fun t => s.linkPending c t report pending := by
  induction pending generalizing report with
  | nil => exact uniform_pure _
  | cons p rest ih => exact (s.uniform_linkNew c report p).bind fun report => ih report

theorem uniform_linkPage (report : BackfillReport) (traces : List Trace) :
    Uniform fun t => s.linkPage c t report traces :=
  (s.uniform_sort traces {} report).bind fun x =>
    (s.uniform_linkMatched c x.1.matched x.2).bind fun report =>
      s.uniform_linkPending c x.1.pending report

theorem uniform_linkPages (cutoff : Instant) (pages : Nat) (after : Option Cursor)
    (report : BackfillReport) : Uniform fun t => s.linkPages c t cutoff pages after report := by
  induction pages generalizing after report with
  | zero => exact uniform_throw _
  | succ pages ih =>
    refine (uniform_send _ _).bind fun (traces : List Trace) => ?_
    cases hlast : traces.getLast? with
    | none => exact uniform_pure _
    | some last => exact (s.uniform_linkPage c _ traces).bind fun report => ih _ report

/-! ## Documents -/

theorem uniform_mergeEndpoints (since : Option Instant) (cutoff : Instant)
    (endpoints : List Endpoint) (tree : Json) (merged : Nat) :
    Uniform fun t => mergeEndpoints c t since cutoff tree merged endpoints := by
  induction endpoints generalizing tree merged with
  | nil => exact uniform_pure _
  | cons e rest ih => exact (uniform_send _ _).bind fun traces => ih _ _

theorem uniform_saveDocument (document : Document) (host : String) :
    Uniform fun t => s.saveDocument c t document host :=
  ((s.uniform_step c _).bind fun _ => s.uniform_step c _).transaction

theorem uniform_generateHost (cutoff : Instant) (report : GenerationReport) (host : String)
    (endpoints : List Endpoint) :
    Uniform fun t => s.generateHost c t cutoff report host endpoints := by
  refine (uniform_send _ _).bind fun (stored : Option Document) => ?_
  by_cases huploaded : stored.any fun d => !d.isGenerated
  · simp only [huploaded, if_true]
    exact uniform_pure _
  · simp only [huploaded]
    refine (uniform_mergeEndpoints c _ cutoff endpoints _ 0).bind fun ⟨tree, merged⟩ => ?_
    by_cases hnews : merged = 0 && stored.isSome
    · simp only [hnews, if_true]
      exact uniform_pure _
    · simp only [hnews]
      exact (s.uniform_saveDocument c _ host).bind fun _ => uniform_pure _

theorem uniform_generateHosts (cutoff : Instant) (hosts : List (String × List Endpoint))
    (report : GenerationReport) : Uniform fun t => s.generateHosts c t cutoff report hosts := by
  induction hosts generalizing report with
  | nil => exact uniform_pure _
  | cons host rest ih =>
    exact (s.uniform_generateHost c cutoff report host.1 host.2).bind fun report => ih report

theorem uniform_generate : Uniform fun t => s.generate t :=
  uniform_currentTime.bind fun cutoff => Uniform.withConnection fun c =>
    (uniform_send _ _).bind fun _ => s.uniform_generateHosts c cutoff _ _

theorem uniform_backfill : Uniform fun t => s.backfill t :=
  uniform_currentTime.bind fun cutoff => Uniform.withConnection fun c =>
    (s.uniform_linkPages c cutoff s.maxPages none {}).bind fun _ =>
      s.uniform_generate.bind fun _ => uniform_pure _

/-! ## Sweeping, rolling up and watching -/

theorem uniform_sweepLinked (report : SweepReport) (trace : Trace) (endpointId : Uuid) :
    Uniform fun t => s.sweepLinked c t report trace endpointId := by
  refine (s.resolver.store.uniform_findById endpointId).outcome.bind fun x => ?_
  rcases x with f | _ | endpoint
  · exact uniform_pure _
  · exact uniform_pure _
  · refine (s.uniform_analyze c endpoint trace false .markAnalyzed).outcome.bind fun x => ?_
    cases x with
    | ok analysis => exact uniform_pure _
    | error f =>
      dsimp only
      split
      · exact uniform_throw f
      · exact uniform_pure _

theorem uniform_sweepPage (traces : List Trace) (report : SweepReport) :
    Uniform fun t => s.sweepPage c t report traces := by
  induction traces generalizing report with
  | nil => exact uniform_pure _
  | cons trace rest ih =>
    simp only [sweepPage]
    cases trace.endpointId with
    | none => exact ih report
    | some endpointId =>
      exact (s.uniform_sweepLinked c report trace endpointId).bind fun report => ih report

theorem uniform_sweepPages (cutoff : Instant) (pages : Nat) (after : Option Cursor)
    (report : SweepReport) : Uniform fun t => s.sweepPages c t cutoff pages after report := by
  induction pages generalizing after report with
  | zero => exact uniform_throw _
  | succ pages ih =>
    refine (uniform_send _ _).bind fun (traces : List Trace) => ?_
    cases hlast : traces.getLast? with
    | none => exact uniform_pure _
    | some last => exact (s.uniform_sweepPage c traces _).bind fun report => ih _ report

theorem uniform_sweep : Uniform fun t => s.sweep t :=
  uniform_currentTime.bind fun cutoff => Uniform.withConnection fun c =>
    s.uniform_sweepPages c cutoff s.maxPages none {}

theorem uniform_rollCounts (boundary : Instant) : Uniform fun t => rollCounts c t boundary := by
  refine (uniform_send _ _).bind fun (counted : Int) => ?_
  by_cases hcounted : counted = 0
  · simp only [hcounted, if_true]
    exact uniform_pure _
  · simp only [hcounted, if_false]
    exact (uniform_send _ _).bind fun _ => (uniform_send _ _).bind fun _ =>
      (uniform_send _ _).bind fun _ => uniform_pure _

theorem uniform_rollupBefore (boundary : Instant) :
    Uniform fun t => rollupBefore c t boundary := by
  refine uniform_openLevel.bind fun _ => (uniform_send _ _).outcome.bind fun x => ?_
  cases x with
  | error f => exact (uniform_ask (r := .abandonLevel c) trivial).bind fun _ => uniform_throw f
  | ok _ =>
    refine (uniform_rollCounts c boundary).outcome.bind fun x => ?_
    cases x with
    | error f => exact uniform_rollbackLevel.outcome.bind fun _ => uniform_throw f
    | ok report =>
      dsimp only
      split
      · exact uniform_commitLevel.bind fun _ => uniform_pure _
      · exact uniform_rollbackLevel.bind fun _ => uniform_throw _

theorem uniform_rollup : Uniform fun t => rollup t :=
  uniform_currentTime.bind fun _ => Uniform.withConnection fun c => uniform_rollupBefore c _

theorem uniform_reportMissing (report : TransportReport) (endpoint : Endpoint) (trace : Trace) :
    Uniform fun t => reportMissing c t report endpoint trace := by
  refine uniform_freshIds.bind fun _ => (uniform_insertAlerts _ _).outcome.bind fun x => ?_
  cases x <;> exact uniform_pure _

theorem uniform_checkTransport (report : TransportReport) (endpoint : Endpoint) (trace : Trace) :
    Uniform fun t => s.checkTransport c t report endpoint trace := by
  unfold checkTransport
  dsimp only
  split
  · exact uniform_pure _
  · have hprobe : ∀ url, Uniform fun _ => probe url := fun url =>
      (uniform_ask (r := .probe url) trivial).bind fun _ => uniform_pure _
    refine (hprobe _).bind fun verdict => ?_
    cases verdict with
    | present => exact uniform_pure _
    | missing => exact uniform_reportMissing c _ endpoint trace
    | inconclusive => exact uniform_pure _

theorem uniform_checkTransports (endpoints : List Endpoint) (traces : List Trace)
    (report : TransportReport) :
    Uniform fun t => s.checkTransports c t endpoints report traces := by
  induction traces generalizing report with
  | nil => exact uniform_pure _
  | cons trace rest ih =>
    simp only [checkTransports]
    cases trace.endpointId.bind (lastWithId endpoints) with
    | none => exact ih report
    | some endpoint =>
      exact (s.uniform_checkTransport c report endpoint trace).bind fun report => ih report

theorem uniform_watchTransport : Uniform fun t => s.watchTransport t :=
  Uniform.withConnection fun c => (uniform_send _ _).bind fun endpoints =>
    (uniform_send _ _).bind fun latest => s.uniform_checkTransports c endpoints latest {}

/-! ## Jobs -/

/-- **Every job is alike for all tenants.** -/
theorem uniform_runJob (job : Job) : Uniform fun t => s.runJob t job := by
  cases job with
  | backfill => exact s.uniform_backfill.bind fun _ => uniform_pure _
  | sweep => exact s.uniform_sweep.bind fun _ => uniform_pure _
  | openapi => exact s.uniform_generate.bind fun _ => uniform_pure _
  | rollup => exact uniform_rollup.bind fun _ => uniform_pure _
  | hsts => exact s.uniform_watchTransport.bind fun _ => uniform_pure _

end Service

end TrafficLens
