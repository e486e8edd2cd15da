import TrafficLens.Analysis.Reconciliation
import TrafficLens.Analysis.SpecDiff
import TrafficLens.Traffic.Endpoint

/-!
# Alerts

An `Alert` tells a person that something about an endpoint deserves a look. Its *trigger* is what
set it off: the kind of alert, the endpoint and a key that tells apart the triggers of one kind at
one endpoint. A trigger is stored once, whatever its alerts say.

There is one generator for each kind. `pendingAlerts` collects what one trace sets off.
-/

namespace TrafficLens

/-- The kinds of alerts. -/
inductive AlertKind where
  | newEndpoint | sensitiveData | specDiff | unauthenticatedData | missingHsts
deriving DecidableEq, Repr

/-- The name of a kind. -/
def AlertKind.name : AlertKind → String
  | .newEndpoint => "new_endpoint"
  | .sensitiveData => "sensitive_data_detected"
  | .specDiff => "spec_diff"
  | .unauthenticatedData => "unauthenticated_sensitive_data"
  | .missingHsts => "missing_hsts"

/-- Has somebody dealt with the alert? -/
inductive AlertStatus where
  | openAlert | resolved
deriving DecidableEq, Repr

/-- The name of a status. -/
def AlertStatus.name : AlertStatus → String
  | .openAlert => "open"
  | .resolved => "resolved"

/-- An alert that waits to be stored. -/
structure Alert where
  id : Uuid
  kind : AlertKind
  risk : Risk
  endpointId : Uuid
  traceId : Option Uuid
  key : String
  description : String
  context : Json
  status : AlertStatus
  createdAt : Instant
deriving DecidableEq

namespace Alert

/-- What set the alert off. -/
def trigger (a : Alert) : AlertKind × Uuid × String := (a.kind, a.endpointId, a.key)

/-- An open alert about an endpoint that a trace set off, before it has an identifier. -/
def ofTrace (kind : AlertKind) (risk : Risk) (endpoint : Endpoint) (trace : Trace)
    (key description : String) (context : Json) : Alert :=
  { id := Uuid.nil, kind, risk, endpointId := endpoint.id, traceId := some trace.id, key,
    description, context, status := .openAlert, createdAt := trace.createdAt }

/-- The JSON form of an alert. -/
def toJson (a : Alert) : Json :=
  .object
    [("alert_type", .string a.kind.name),
     ("context", a.context),
     ("created_at", a.createdAt.toJson),
     ("dedup_key", .string a.key),
     ("description", .string a.description),
     ("endpoint_id", a.endpointId.toJson),
     ("id", a.id.toJson),
     ("risk_score", .string a.risk.name),
     ("status", .string a.status.name),
     ("trace_id", Json.orNull Uuid.toJson a.traceId)]

/-- An endpoint was seen for the first time. -/
def newEndpoint (endpoint : Endpoint) (trace : Trace) : Alert :=
  ofTrace .newEndpoint .low endpoint trace ""
    ("New endpoint " ++ endpoint.method ++ " " ++ endpoint.path ++ " on " ++ endpoint.host)
    (.object [])

/-- A class of sensitive data was recorded at a place for the first time. -/
def sensitiveData (scanner : Scanner) (endpoint : Endpoint) (trace : Trace) (found : FoundClass) :
    Alert :=
  let location := found.sec.name ++ "." ++ found.path
  ofTrace .sensitiveData (scanner.risk found.className) endpoint trace
    (location ++ ":" ++ found.className)
    (found.className ++ " detected in " ++ location ++ " of " ++ endpoint.method ++ " " ++
      endpoint.path)
    (.object [("dataClass", .string found.className), ("dataPath", .string found.path),
      ("dataSection", .string found.sec.name)])

/-- The traffic shows something that the uploaded document does not describe. -/
def specDiff (endpoint : Endpoint) (trace : Trace) (diff : SpecDiff) : Alert :=
  ofTrace .specDiff .medium endpoint trace diff.key diff.text
    (.object [("kind", .string diff.kind.name), ("location", .string diff.location),
      ("specName", Json.orNull .string endpoint.documentName)])

/-- The response carried sensitive data to a caller without credentials. -/
def unauthenticated? (endpoint : Endpoint) (trace : Trace) (classes : List String) :
    Option Alert :=
  if trace.session.isUnauthenticatedSuccess && !classes.isEmpty then
    some
      (ofTrace .unauthenticatedData .high endpoint trace ""
        (endpoint.method ++ " " ++ endpoint.path ++ " returns sensitive data (" ++
          Text.joinWith ", " classes ++ ") without authentication")
        (.object [("dataClasses", Json.strings classes)]))
  else none

/-- The response does not ask for a secure transport. -/
def missingHsts (endpoint : Endpoint) (trace : Trace) : Alert :=
  ofTrace .missingHsts .medium endpoint trace ""
    (endpoint.method ++ " " ++ endpoint.path ++ " on " ++ endpoint.host ++
      " does not send Strict-Transport-Security")
    (.object [])

/-- The header by which a response asks for a secure transport. -/
def hstsHeader : String := "strict-transport-security"

/-- Give each alert an identifier from a supply. -/
def withIds (newId : Nat → Uuid) : (count : Nat) → List Alert → List Alert
  | _, [] => []
  | n, a :: rest => { a with id := newId n } :: withIds newId (n + 1) rest

end Alert

/-- The alerts that a trace sets off: differences from the uploaded document first, then sensitive
data, data without credentials, a missing header if such alerts are wanted, and a new endpoint. -/
def pendingAlerts (scanner : Scanner) (hstsWanted : Bool) (endpoint : Endpoint) (trace : Trace)
    (outcome : Reconciliation) (document : Option Json) (isNew : Bool) : List Alert :=
  (match document with
    | some doc =>
      (SpecDiff.diff doc endpoint.path endpoint.method trace).map (Alert.specDiff endpoint trace)
    | none => []) ++
    outcome.newClasses.map (Alert.sensitiveData scanner endpoint trace) ++
    (Alert.unauthenticated? endpoint trace outcome.responseClasses).toList ++
    (if hstsWanted && !trace.hasResponseHeader Alert.hstsHeader then
      [Alert.missingHsts endpoint trace]
    else []) ++
    (if isNew then [Alert.newEndpoint endpoint trace] else [])

end TrafficLens
