import TrafficLens.Service.Generation

/-!
# Linking stored traces

Traces that were stored without an endpoint are linked later, oldest first and a page at a time.
`sort` sorts a page: a trace goes to the stored endpoint that matches it, or to a template that the
page has already brought up, or to a new template; traces that can have no endpoint are skipped.
Then each group is linked in a transaction of its own, and a template first becomes an endpoint.

A trace or a group that fails is counted and left for the next run, unless the connection is lost.
When all pages are done the generated documents are brought up to date.
-/

namespace TrafficLens

/-- What a run of the backfill did. -/
structure BackfillReport where
  scanned : Nat := 0
  linked : Nat := 0
  skipped : Nat := 0
  failed : Nat := 0
  created : Nat := 0
  documentsUpdated : Nat := 0
deriving DecidableEq

/-- The JSON form of a report. -/
def BackfillReport.toJson (r : BackfillReport) : Json :=
  .object
    [("endpoints_created", .nat r.created), ("specs_updated", .nat r.documentsUpdated),
     ("traces_failed", .nat r.failed), ("traces_linked", .nat r.linked),
     ("traces_scanned", .nat r.scanned), ("traces_skipped", .nat r.skipped)]

/-- Traces that will share an endpoint, and the span of time that they cover. -/
structure TraceGroup where
  traceIds : List Uuid
  first : Instant
  last : Instant
deriving DecidableEq

namespace TraceGroup

/-- The group of one trace. -/
def single (trace : Trace) : TraceGroup := ⟨[trace.id], trace.createdAt, trace.createdAt⟩

/-- A group with one more trace. -/
def add (g : TraceGroup) (trace : Trace) : TraceGroup :=
  ⟨g.traceIds ++ [trace.id], g.first.earlier trace.createdAt, g.last.later trace.createdAt⟩

end TraceGroup

/-- A template that a page has brought up, and the traces that go with it. -/
structure PendingEndpoint where
  host : String
  method : String
  template : PathTemplate
  firstTrace : Trace
  group : TraceGroup

namespace PendingEndpoint

/-- Does a trace with a path go with the template? -/
def takes (p : PendingEndpoint) (trace : Trace) (path : String) : Bool :=
  p.host == trace.host && p.method == trace.method && Pattern.isMatch p.template.pattern path

/-- Add a trace to the first template that it goes with. -/
def addTo? (trace : Trace) (path : String) : List PendingEndpoint → Option (List PendingEndpoint)
  | [] => none
  | p :: rest =>
    if p.takes trace path then some ({ p with group := p.group.add trace } :: rest)
    else (addTo? trace path rest).map (p :: ·)

end PendingEndpoint

/-- A page of traces, sorted by what they will be linked to. -/
structure SortedPage where
  /-- Groups that go to stored endpoints, by the endpoint. -/
  matched : List (Uuid × TraceGroup) := []
  /-- Groups that go to new templates, in the order of their first traces. -/
  pending : List PendingEndpoint := []

namespace BackfillReport

/-- Count a failure of some traces. A lost connection ends the run. -/
def countFailure (r : BackfillReport) (size : Nat) (f : Failure) : Attempt BackfillReport :=
  if f.losesConnection then throw f else pure { r with failed := r.failed + size }

/-- Count a skipped trace, or several. -/
def countSkipped (r : BackfillReport) (size : Nat) : BackfillReport :=
  { r with skipped := r.skipped + size }

end BackfillReport

namespace Service

/-- Sort a trace that no stored endpoint takes. -/
def sortPending (s : Service) (trace : Trace) (path : String) (page : SortedPage)
    (report : BackfillReport) : SortedPage × BackfillReport :=
  if trace.isNotFound then (page, report.countSkipped 1)
  else
    match PendingEndpoint.addTo? trace path page.pending with
    | some pending => ({ page with pending }, report)
    | none =>
      match s.resolver.policy.infer path with
      | none => (page, report.countSkipped 1)
      | some template =>
        let p : PendingEndpoint :=
          { host := trace.host, method := trace.method, template, firstTrace := trace,
            group := .single trace }
        ({ page with pending := page.pending ++ [p] }, report)

/-- Sort a trace. -/
def sortTrace (s : Service) (t : Tenant) (trace : Trace) (page : SortedPage)
    (report : BackfillReport) : Attempt (SortedPage × BackfillReport) := do
  let trace := { trace with method := trace.method.toUpper }
  let path := Path.normalize trace.path
  if path.isEmpty then pure (page, report.countSkipped 1)
  else
    match ← (s.resolver.find t trace.host trace.method path).outcome with
    | .error f => do
      let report ← report.countFailure 1 f
      pure (page, report)
    | .ok (some endpoint) =>
      let group := fun (old : Option TraceGroup) =>
        match old with
        | none => TraceGroup.single trace
        | some g => g.add trace
      pure ({ page with matched := Dict.alter endpoint.id group page.matched }, report)
    | .ok none => pure (s.sortPending trace path page report)

/-- Sort the traces of a page. -/
def sort (s : Service) (t : Tenant) :
    SortedPage → BackfillReport → List Trace → Attempt (SortedPage × BackfillReport)
  | page, report, [] => pure (page, report)
  | page, report, trace :: rest => do
    let (page, report) ← s.sortTrace t trace page report
    sort s t page report rest

/-- Link the traces of a group to an endpoint, widen its dates, and store an alert if there is
one. -/
def linkGroup (s : Service) (c : ConnectionId) (t : Tenant) (endpointId : Uuid)
    (group : TraceGroup) (alert : Option Alert) : Attempt Unit :=
  transaction c do
    s.step c t (.linkTraces endpointId group.traceIds)
    s.step c t (.widenDates endpointId group.first group.last)
    match alert with
    | none => pure ()
    | some a => s.step c t (.insertAlert a)

/-- Count what became of a group. -/
def countLinked (report : BackfillReport) (size : Nat) : Except Failure Unit → Attempt BackfillReport
  | .ok () => pure { report with linked := report.linked + size }
  | .error f => report.countFailure size f

/-- Link the groups that go to stored endpoints. -/
def linkMatched (s : Service) (c : ConnectionId) (t : Tenant) :
    BackfillReport → List (Uuid × TraceGroup) → Attempt BackfillReport
  | report, [] => pure report
  | report, (endpointId, group) :: rest => do
    let outcome ← (s.linkGroup c t endpointId group none).outcome
    let report ← countLinked report group.traceIds.length outcome
    linkMatched s c t report rest

/-- Store the endpoint of a template, or take the one that is there. The answer says whether it is
new. -/
def placeEndpoint (s : Service) (t : Tenant) (p : PendingEndpoint) :
    Attempt (Option (Endpoint × Bool)) := do
  let ids ← freshIds
  let candidate := Endpoint.ofTemplate (ids 0) p.host p.method p.template
  match ← s.resolver.store.insert t candidate with
  | .inserted => pure (some (candidate, true))
  | .conflict => do
    let found ← s.resolver.store.findExact t p.host p.method p.template.path
    pure (found.map fun e => (e, false))

/-- Link a group that goes to a new template. -/
def linkNew (s : Service) (c : ConnectionId) (t : Tenant) (report : BackfillReport)
    (p : PendingEndpoint) : Attempt BackfillReport := do
  let size := p.group.traceIds.length
  match ← (s.placeEndpoint t p).outcome with
  | .error f => report.countFailure size f
  | .ok none => pure (report.countSkipped size)
  | .ok (some (endpoint, isNew)) =>
    let report := if isNew then { report with created := report.created + 1 } else report
    let ids ← freshIds
    let alert :=
      if isNew then some { Alert.newEndpoint endpoint p.firstTrace with id := ids 0 } else none
    let outcome ← (s.linkGroup c t endpoint.id p.group alert).outcome
    countLinked report size outcome

/-- Link the groups that go to new templates. -/
def linkPending (s : Service) (c : ConnectionId) (t : Tenant) :
    BackfillReport → List PendingEndpoint → Attempt BackfillReport
  | report, [] => pure report
  | report, p :: rest => do
    let report ← s.linkNew c t report p
    linkPending s c t report rest

/-- Link the traces of a page. -/
def linkPage (s : Service) (c : ConnectionId) (t : Tenant) (report : BackfillReport)
    (traces : List Trace) : Attempt BackfillReport := do
  let (page, report) ← s.sort t {} report traces
  let report ← s.linkMatched c t report page.matched
  s.linkPending c t report page.pending

/-- Link page after page, at most so many. -/
def linkPages (s : Service) (c : ConnectionId) (t : Tenant) (cutoff : Instant) :
    (pages : Nat) → Option Cursor → BackfillReport → Attempt BackfillReport
  | 0, _, _ => throw .tooManyPages
  | pages + 1, after, report => do
    let size := max s.settings.jobs.backfillBatchSize 1
    let traces : List Trace ← send (.held c) t (.fetchUnlinked cutoff after size)
    match traces.getLast? with
    | none => pure report
    | some last =>
      let report := { report with scanned := report.scanned + traces.length }
      let report ← s.linkPage c t report traces
      linkPages s c t cutoff pages (some (last.createdAt, last.id)) report

/-- Link the traces that have no endpoint, and bring the generated documents up to date. -/
def backfill (s : Service) (t : Tenant) : Attempt BackfillReport := do
  let cutoff ← currentTime
  withConnection fun c => do
    let report ← s.linkPages c t cutoff s.maxPages none {}
    let generation ← s.generate t
    pure { report with documentsUpdated := generation.documentsUpdated }

end Service

end TrafficLens
