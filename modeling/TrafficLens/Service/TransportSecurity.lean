import TrafficLens.Service.Processing

/-!
# Watching transport security

An endpoint whose latest response does not ask for a secure transport is probed: the service gets
one request without a body. If the answer does not ask for it either, an alert is stored. A probe
that is not answered proves nothing.
-/

namespace TrafficLens

/-- What a run of the watch did. -/
structure TransportReport where
  checked : Nat := 0
  probesSent : Nat := 0
  probesFailed : Nat := 0
  alertsInserted : Nat := 0
deriving DecidableEq

/-- The JSON form of a report. -/
def TransportReport.toJson (r : TransportReport) : Json :=
  .object
    [("alerts_inserted", .nat r.alertsInserted), ("endpoints_checked", .nat r.checked),
     ("probes_failed", .nat r.probesFailed), ("probes_sent", .nat r.probesSent)]

/-- What a probe showed. -/
inductive Verdict where
  | present | missing | inconclusive
deriving DecidableEq, Repr

namespace Verdict

/-- The name of a verdict. -/
def name : Verdict → String
  | present => "present"
  | missing => "missing"
  | inconclusive => "inconclusive"

/-- What an answer shows. -/
def ofAnswer : ProbeAnswer → Verdict
  | .answered headers =>
    if headers.any fun h => h.toLower == Alert.hstsHeader then present else missing
  | .unanswered => inconclusive

end Verdict

/-- The address of a path at a host; a slash is put before the path if it has none. -/
def probeUrl (scheme host path : String) : String :=
  let path := if path.toList.head? = some '/' then path else "/" ++ path
  scheme ++ "://" ++ host ++ path

/-- Probe a service. -/
def probe (url : String) : Attempt Verdict := do
  pure (Verdict.ofAnswer (← Attempt.ask (.probe url)))

/-- The endpoint with an identifier; of several, the last one. -/
def lastWithId (endpoints : List Endpoint) (id : Uuid) : Option Endpoint :=
  endpoints.reverse.find? fun e => e.id == id

namespace Service

/-- Store an alert about a missing header. A failure is passed over. -/
def reportMissing (c : ConnectionId) (t : Tenant) (report : TransportReport)
    (endpoint : Endpoint) (trace : Trace) : Attempt TransportReport := do
  let ids ← freshIds
  let alert := { Alert.missingHsts endpoint trace with id := ids 0 }
  match ← (insertAlerts (.held c) t [alert]).outcome with
  | .ok n => pure { report with alertsInserted := report.alertsInserted + n }
  | .error _ => pure report

/-- Look at the latest trace of an endpoint. -/
def checkTransport (s : Service) (c : ConnectionId) (t : Tenant) (report : TransportReport)
    (endpoint : Endpoint) (trace : Trace) : Attempt TransportReport := do
  let report := { report with checked := report.checked + 1 }
  if trace.hasResponseHeader Alert.hstsHeader then pure report
  else
    let report := { report with probesSent := report.probesSent + 1 }
    match ← probe (probeUrl s.settings.jobs.probeScheme endpoint.host trace.path) with
    | .present => pure report
    | .missing => reportMissing c t report endpoint trace
    | .inconclusive => pure { report with probesFailed := report.probesFailed + 1 }

/-- Look at the latest traces of endpoints. A trace of an unknown endpoint is passed over. -/
def checkTransports (s : Service) (c : ConnectionId) (t : Tenant) (endpoints : List Endpoint) :
    TransportReport → List Trace → Attempt TransportReport
  | report, [] => pure report
  | report, trace :: rest =>
    match trace.endpointId.bind (lastWithId endpoints) with
    | none => checkTransports s c t endpoints report rest
    | some endpoint => do
      let report ← s.checkTransport c t report endpoint trace
      checkTransports s c t endpoints report rest

/-- Watch the transport security of all endpoints. -/
def watchTransport (s : Service) (t : Tenant) : Attempt TransportReport :=
  withConnection fun c => do
    let endpoints : List Endpoint ← send (.held c) t .listEndpoints
    let latest : List Trace ← send (.held c) t .latestTraces
    s.checkTransports c t endpoints {} latest

end Service

end TrafficLens
