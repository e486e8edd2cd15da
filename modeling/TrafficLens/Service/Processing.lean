import TrafficLens.Service.Resolution

/-!
# Processing a trace

`analyze` folds a trace into its endpoint inside one transaction: it keeps others out of the
endpoint, reads the endpoint's fields, reconciles them with the trace, and writes the trace, the
changed fields, the alerts and the endpoint, each as a step that is tried again by itself.
`process` finds the endpoint of a trace first. A trace whose endpoint could not be made is stored
without one.
-/

namespace TrafficLens

/-- How an analysis writes its trace. -/
inductive TraceWrite where
  /-- The trace is new: it is stored with its endpoint. -/
  | insert
  /-- The trace is stored: it is marked. -/
  | markAnalyzed
deriving DecidableEq, Repr

/-- What an analysis did. -/
structure AnalysisReport where
  endpointId : Uuid
  isNewEndpoint : Bool
  fieldsWritten : Nat
  alertsGenerated : Nat
  /-- The alerts that were not there yet. -/
  alertsInserted : Nat
deriving DecidableEq

namespace AnalysisReport

/-- The JSON form of a report. -/
def toJson (r : AnalysisReport) : Json :=
  .object
    [("alerts_generated", .nat r.alertsGenerated), ("alerts_inserted", .nat r.alertsInserted),
     ("endpoint_id", r.endpointId.toJson), ("fields_written", .nat r.fieldsWritten),
     ("is_new_endpoint", .bool r.isNewEndpoint)]

end AnalysisReport

/-- What became of a trace. -/
inductive Disposition where
  | analyzed (report : AnalysisReport)
  /-- The trace was stored without an endpoint. -/
  | deferred
  /-- There can be no endpoint for the trace. -/
  | discarded
deriving DecidableEq

/-- The JSON form of what became of a trace. -/
def Disposition.toJson : Disposition → Json
  | analyzed report => .object [("Analyzed", report.toJson)]
  | deferred => .string "Deferred"
  | discarded => .string "Discarded"

/-- Store alerts one after another, and count those that were not there yet. -/
def insertAlerts (route : Route) (t : Tenant) : List Alert → Attempt Nat
  | [] => pure 0
  | a :: rest => do
    let n : Nat ← send route t (.insertAlert a)
    let m ← insertAlerts route t rest
    pure (n + m)

/-- Store fields one after another. -/
def upsertFields (route : Route) (t : Tenant) : List Field → Attempt Unit
  | [] => pure ()
  | f :: rest => do
    let _ ← send route t (.upsertField f)
    upsertFields route t rest

namespace Service

/-- Send a command that changes rows as a step of a transaction. -/
def step (s : Service) (c : ConnectionId) (t : Tenant) (command : Command) : Attempt Unit :=
  retryStep s.retry c do
    let _ ← send (.held c) t command
    pure ()

/-- The uploaded document that the endpoint is linked to. -/
def loadUploaded (c : ConnectionId) (t : Tenant) (e : Endpoint) : Attempt (Option Json) :=
  match e.documentName with
  | some name => if e.hasUploadedDocument then send (.held c) t (.loadUploaded name) else pure none
  | none => pure none

/-- Write what an analysis found, and count the alerts that were not there yet. -/
def persist (s : Service) (c : ConnectionId) (t : Tenant) (trace : Trace) (write : TraceWrite)
    (fields : List Field) (alerts : List Alert) (update : EndpointUpdate) : Attempt Nat := do
  s.step c t
    (match write with
    | .insert => .insertTrace trace (some update.id) true
    | .markAnalyzed => .markAnalyzed trace.id update.id)
  if fields.isEmpty then pure () else retryStep s.retry c (upsertFields (.held c) t fields)
  let inserted ←
    if alerts.isEmpty then pure 0 else retryStep s.retry c (insertAlerts (.held c) t alerts)
  s.step c t (.updateEndpoint update)
  pure inserted

/-- Reconcile the fields of an endpoint with a trace, and write what comes of it. -/
def analyzeLocked (s : Service) (c : ConnectionId) (t : Tenant) (endpoint : Endpoint)
    (trace : Trace) (isNew : Bool) (write : TraceWrite) (document : Option Json) :
    Attempt AnalysisReport := do
  s.step c t (.lockEndpoint endpoint.id)
  let existing ← send (.held c) t (.loadFields endpoint.id)
  let fieldIds ← freshIds
  let outcome := reconcile s.scanner fieldIds trace endpoint.id existing
  let alertIds ← freshIds
  let alerts := Alert.withIds alertIds 0
    (pendingAlerts s.scanner s.settings.alerts.hstsFromTraffic endpoint trace outcome document
      isNew)
  let inserted ← s.persist c t trace write outcome.changed alerts
    { id := endpoint.id
      seenAt := trace.createdAt
      risk := Risk.max endpoint.risk outcome.risk
      authenticated := trace.session.signal }
  pure
    { endpointId := endpoint.id, isNewEndpoint := isNew
      fieldsWritten := outcome.changed.length, alertsGenerated := alerts.length
      alertsInserted := inserted }

/-- Fold a trace into its endpoint. -/
def analyze (s : Service) (c : ConnectionId) (t : Tenant) (endpoint : Endpoint) (trace : Trace)
    (isNew : Bool) (write : TraceWrite) : Attempt AnalysisReport := do
  let endpoint := endpoint.seenAt trace.createdAt
  let document ← loadUploaded c t endpoint
  transaction c (s.analyzeLocked c t endpoint trace isNew write document)

/-- Store a trace without an endpoint. -/
def storeUnlinked (s : Service) (c : ConnectionId) (t : Tenant) (trace : Trace) : Attempt Unit :=
  s.step c t (.insertTrace trace none false)

/-- Find the endpoint of a trace and fold the trace into it. -/
def process (s : Service) (c : ConnectionId) (t : Tenant) (trace : Trace) :
    Attempt Disposition := do
  let trace :=
    { trace with method := trace.method.toUpper, endpointId := none, analyzed := false }
  match ← s.resolver.resolve t trace with
  | .resolved endpoint isNew => do
    let report ← s.analyze c t endpoint trace isNew .insert
    pure (.analyzed report)
  | .deferred => do
    s.storeUnlinked c t trace
    pure .deferred
  | .unresolvable => pure .discarded

end Service

end TrafficLens
