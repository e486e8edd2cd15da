import TrafficLens.Service.Processing

/-!
# Analyzing linked traces

Traces that were linked to an endpoint without being analyzed are analyzed later, oldest first and
a page at a time. A trace that fails is counted and left for the next run, unless the connection is
lost.
-/

namespace TrafficLens

/-- What a run of the sweep did. -/
structure SweepReport where
  scanned : Nat := 0
  analyzed : Nat := 0
  failed : Nat := 0
  alertsInserted : Nat := 0
deriving DecidableEq

/-- The JSON form of a report. -/
def SweepReport.toJson (r : SweepReport) : Json :=
  .object
    [("alerts_inserted", .nat r.alertsInserted), ("traces_analyzed", .nat r.analyzed),
     ("traces_failed", .nat r.failed), ("traces_scanned", .nat r.scanned)]

namespace Service

/-- Analyze a trace that is linked to an endpoint. -/
def sweepLinked (s : Service) (c : ConnectionId) (t : Tenant) (report : SweepReport)
    (trace : Trace) (endpointId : Uuid) : Attempt SweepReport := do
  let failed := { report with failed := report.failed + 1 }
  match ← (s.resolver.store.findById t endpointId).outcome with
  | .error _ => pure failed
  | .ok none => pure failed
  | .ok (some endpoint) =>
    match ← (s.analyze c t endpoint trace false .markAnalyzed).outcome with
    | .ok analysis =>
      pure
        { report with
          analyzed := report.analyzed + 1
          alertsInserted := report.alertsInserted + analysis.alertsInserted }
    | .error f => if f.losesConnection then throw f else pure failed

/-- Analyze the traces of a page. A trace without an endpoint is passed over. -/
def sweepPage (s : Service) (c : ConnectionId) (t : Tenant) :
    SweepReport → List Trace → Attempt SweepReport
  | report, [] => pure report
  | report, trace :: rest =>
    match trace.endpointId with
    | none => sweepPage s c t report rest
    | some endpointId => do
      let report ← s.sweepLinked c t report trace endpointId
      sweepPage s c t report rest

/-- Analyze page after page, at most so many. -/
def sweepPages (s : Service) (c : ConnectionId) (t : Tenant) (cutoff : Instant) :
    (pages : Nat) → Option Cursor → SweepReport → Attempt SweepReport
  | 0, _, _ => throw .tooManyPages
  | pages + 1, after, report => do
    let size := max s.settings.jobs.sweepBatchSize 1
    let traces : List Trace ← send (.held c) t (.fetchUnanalyzed cutoff after size)
    match traces.getLast? with
    | none => pure report
    | some last =>
      let report := { report with scanned := report.scanned + traces.length }
      let report ← s.sweepPage c t report traces
      sweepPages s c t cutoff pages (some (last.createdAt, last.id)) report

/-- Analyze the traces that are linked and wait for their analysis. -/
def sweep (s : Service) (t : Tenant) : Attempt SweepReport := do
  let cutoff ← currentTime
  withConnection fun c => s.sweepPages c t cutoff s.maxPages none {}

end Service

end TrafficLens
