import TrafficLens.Path.Template
import TrafficLens.Traffic.Risk
import TrafficLens.Traffic.Trace

/-!
# Endpoints

An `Endpoint` is a method on a template of paths at a host, with what has been learnt about it. A
stored endpoint may be linked to a document that describes it: an uploaded one, or one that was
generated from traffic.

A `Bypass` says when a stored endpoint is not accepted for a path that its pattern matches. With
`Bypass.generated`, an endpoint of a generated document is refused when one of its placeholders
would take a segment that does not look like an identifier; the path then gets an endpoint of its
own.
-/

namespace TrafficLens

/-- A method on a template of paths at a host. -/
structure Endpoint where
  id : Uuid
  host : String
  method : String
  path : String
  pathPattern : String
  numberParams : Int
  firstDetected : Option Instant := none
  lastActive : Option Instant := none
  riskScore : Int := 0
  documentName : Option String := none
  isGraphql : Bool := false
  isAuthenticated : Option Bool := none
  /-- Was the linked document generated? `none` when there is no link. -/
  documentGenerated : Option Bool := none
deriving DecidableEq, Inhabited

namespace Endpoint

/-- The endpoint of a template. The number of placeholders is kept in thirty-two bits with a sign. -/
def ofTemplate (id : Uuid) (host method : String) (template : PathTemplate) : Endpoint :=
  { id, host, method := method.toUpper, path := template.path, pathPattern := template.pattern,
    numberParams := Int.bmod template.paramCount (Nat.pow 2 32), isGraphql := template.isGraphql }

/-- Widen the span from the first to the last time the endpoint was seen. -/
def seenAt (e : Endpoint) (t : Instant) : Endpoint :=
  { e with
    firstDetected := some ((e.firstDetected.map (Instant.earlier · t)).getD t)
    lastActive := some ((e.lastActive.map (Instant.later · t)).getD t) }

/-- The risk of the endpoint. -/
def risk (e : Endpoint) : Risk := Risk.ofRank e.riskScore

/-- Is the endpoint linked to an uploaded document? -/
def hasUploadedDocument (e : Endpoint) : Bool :=
  e.documentName.isSome && e.documentGenerated == some false

/-- Does the endpoint have this host, method and path? No two stored endpoints share all three. -/
def hasKey (e : Endpoint) (host method path : String) : Bool :=
  e.host == host && e.method == method && e.path == path

/-- The names of the fields, in the order of their declaration. -/
def fieldNames : List String :=
  ["id", "host", "method", "path", "path_regex", "number_params", "first_detected",
   "last_active", "risk_score", "openapi_spec_name", "is_graphql",
   "is_authenticated_detected", "spec_auto_generated"]

/-- The JSON form of an endpoint. -/
def toJson (e : Endpoint) : Json :=
  .object
    [("first_detected", Json.orNull Instant.toJson e.firstDetected),
     ("host", .string e.host),
     ("id", e.id.toJson),
     ("is_authenticated_detected", Json.orNull .bool e.isAuthenticated),
     ("is_graphql", .bool e.isGraphql),
     ("last_active", Json.orNull Instant.toJson e.lastActive),
     ("method", .string e.method),
     ("number_params", .int e.numberParams),
     ("openapi_spec_name", Json.orNull .string e.documentName),
     ("path", .string e.path),
     ("path_regex", .string e.pathPattern),
     ("risk_score", .int e.riskScore),
     ("spec_auto_generated", Json.orNull .bool e.documentGenerated)]

/-- Read an endpoint. -/
def ofJson? (v : Json) : Option Endpoint := do
  let r ← Json.Record.ofJson? fieldNames v
  let id ← r.required "id" Uuid.ofJson?
  let host ← r.required "host" Json.asString?
  let method ← r.required "method" Json.asString?
  let path ← r.required "path" Json.asString?
  let pathPattern ← r.required "path_regex" Json.asString?
  let numberParams ← r.required "number_params" (Json.asSigned? 32)
  let firstDetected ← r.optional "first_detected" Instant.ofJson?
  let lastActive ← r.optional "last_active" Instant.ofJson?
  let riskScore ← r.required "risk_score" (Json.asSigned? 16)
  let documentName ← r.optional "openapi_spec_name" Json.asString?
  let isGraphql ← r.required "is_graphql" Json.asBool?
  let isAuthenticated ← r.optional "is_authenticated_detected" Json.asBool?
  let documentGenerated ← r.optional "spec_auto_generated" Json.asBool?
  pure
    { id, host, method, path, pathPattern, numberParams, firstDetected, lastActive, riskScore,
      documentName, isGraphql, isAuthenticated, documentGenerated }

end Endpoint

/-- When a stored endpoint is refused for a path that its pattern matches. -/
inductive Bypass where
  /-- Never. -/
  | never
  /-- When its document was generated and a placeholder would take a plain segment. -/
  | generated
deriving DecidableEq, Repr

/-- Is the endpoint refused for the path? -/
def Bypass.refuses (bypass : Bypass) (policy : IdentifierPolicy) (e : Endpoint) (path : String) :
    Bool :=
  match bypass with
  | .never => false
  | .generated =>
    e.documentGenerated == some true && !e.isGraphql &&
      ((Path.segments e.path).zip (Path.segments path)).any fun s =>
        Path.isPlaceholder s.1 && !policy.isIdentifier s.2

end TrafficLens
