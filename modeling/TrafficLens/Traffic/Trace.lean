import TrafficLens.Instant.Text
import TrafficLens.Json.Record
import TrafficLens.Uuid

/-!
# Traces

A `Trace` is one exchange that was captured between a caller and a service: the request, the
response, and what the capture could tell about the caller's credentials. A `QueuedTrace` is a
trace that waits for its analysis, with the choice of the schema that it belongs to.

Traces travel as JSON with names in camel case. Writing and reading are inverse to each other. A
trace that comes without an identifier or without a time gets the ones that the reader supplies;
other fields that may be missing have fixed defaults.
-/

namespace TrafficLens

/-- A name with a value: a parameter of a query, or a header. -/
structure Pair where
  name : String
  value : String
deriving DecidableEq, Repr, Inhabited

namespace Pair

/-- The JSON form of a pair. -/
def toJson (p : Pair) : Json := .object [("name", .string p.name), ("value", .string p.value)]

/-- Read a pair. -/
def ofJson? (v : Json) : Option Pair := do
  let r ← Json.Record.ofJson? ["name", "value"] v
  let name ← r.required "name" Json.asString?
  let value ← r.required "value" Json.asString?
  pure ⟨name, value⟩

/-- The JSON form of a list of pairs. -/
def listToJson (ps : List Pair) : Json := .array (ps.map toJson)

/-- Read a list of pairs. -/
def listOfJson? : Json → Option (List Pair) := Json.asList? ofJson?

end Pair

/-- What is known about the credentials of a request. -/
structure Session where
  provided : Option Bool := none
  successful : Option Bool := none
deriving DecidableEq, Repr, Inhabited

namespace Session

/-- The request came through without credentials. -/
def isUnauthenticatedSuccess (s : Session) : Bool :=
  s.provided == some false && s.successful != some false

/-- What the request says about its endpoint: `false` when it came through without credentials,
`true` when its credentials were accepted. -/
def signal (s : Session) : Option Bool :=
  if s.isUnauthenticatedSuccess then some false
  else if s.provided == some true && s.successful == some true then some true
  else none

/-- The JSON form of what is known; unknown parts are left out. -/
def toJson (s : Session) : Json :=
  .object
    ((match s.provided with
      | none => []
      | some b => [("authenticationProvided", .bool b)]) ++
      (match s.successful with
       | none => []
       | some b => [("authenticationSuccessful", .bool b)]))

/-- Read what is known about credentials. -/
def ofJson? (v : Json) : Option Session := do
  let r ← Json.Record.ofJson? ["authenticationProvided", "authenticationSuccessful"] v
  let provided ← r.optionalDefault "authenticationProvided" Json.asBool?
  let successful ← r.optionalDefault "authenticationSuccessful" Json.asBool?
  pure ⟨provided, successful⟩

end Session

namespace Uuid

/-- The JSON form of an identifier. -/
def toJson (u : Uuid) : Json := .string u.toText

/-- Read an identifier. -/
def ofJson? (v : Json) : Option Uuid := v.string?.bind parse?

end Uuid

namespace Instant

/-- The JSON form of an instant. -/
def toJson (t : Instant) : Json := .string t.toText

/-- Read an instant. -/
def ofJson? (v : Json) : Option Instant := v.string?.bind parse?

end Instant

/-- One captured exchange. -/
structure Trace where
  id : Uuid
  host : String
  path : String
  method : String
  requestParameters : List Pair := []
  requestHeaders : List Pair := []
  requestBody : String := ""
  responseStatus : Int
  responseHeaders : List Pair := []
  responseBody : String := ""
  /-- Whatever else the capture recorded. -/
  extra : Json := .null
  session : Session := {}
  createdAt : Instant
  endpointId : Option Uuid := none
  analyzed : Bool := false
deriving DecidableEq, Inhabited

namespace Trace

/-- A trace without headers, parameters and bodies. -/
def bare (id : Uuid) (now : Instant) (host method path : String) (status : Int) : Trace :=
  { id, host, path, method := method.toUpper, responseStatus := status, createdAt := now,
    extra := .object [] }

/-- A response with the status 404 or 405 tells nothing about what the service offers. -/
def isNotFound (t : Trace) : Bool := t.responseStatus == 404 || t.responseStatus == 405

/-- The value of the first header of a name, in any case. -/
def header? (headers : List Pair) (name : String) : Option String :=
  (headers.find? fun h => h.name.toLower == name.toLower).map Pair.value

/-- The content type of the request, in lower case. -/
def requestContentType (t : Trace) : Option String :=
  (header? t.requestHeaders "content-type").map String.toLower

/-- The content type of the response, in lower case. -/
def responseContentType (t : Trace) : Option String :=
  (header? t.responseHeaders "content-type").map String.toLower

/-- Does the response have a header of the name? -/
def hasResponseHeader (t : Trace) (name : String) : Bool :=
  (header? t.responseHeaders name).isSome

/-- The names of the fields, in the order of their declaration. -/
def fieldNames : List String :=
  ["id", "host", "path", "method", "requestParameters", "requestHeaders", "requestBody",
   "responseStatus", "responseHeaders", "responseBody", "meta", "sessionMeta", "createdAt",
   "endpointId", "analyzed"]

/-- The JSON form of a trace. -/
def toJson (t : Trace) : Json :=
  .object
    [("analyzed", .bool t.analyzed),
     ("createdAt", t.createdAt.toJson),
     ("endpointId", Json.orNull Uuid.toJson t.endpointId),
     ("host", .string t.host),
     ("id", t.id.toJson),
     ("meta", t.extra),
     ("method", .string t.method),
     ("path", .string t.path),
     ("requestBody", .string t.requestBody),
     ("requestHeaders", Pair.listToJson t.requestHeaders),
     ("requestParameters", Pair.listToJson t.requestParameters),
     ("responseBody", .string t.responseBody),
     ("responseHeaders", Pair.listToJson t.responseHeaders),
     ("responseStatus", .int t.responseStatus),
     ("sessionMeta", t.session.toJson)]

/-- Read a trace. One that has no identifier gets `fresh`, and one that has no time gets `now`. -/
def ofJson? (fresh : Uuid) (now : Instant) (v : Json) : Option Trace := do
  let r ← Json.Record.ofJson? fieldNames v
  let id ← r.withDefault "id" Uuid.ofJson? fresh
  let host ← r.required "host" Json.asString?
  let path ← r.required "path" Json.asString?
  let method ← r.required "method" Json.asString?
  let requestParameters ← r.withDefault "requestParameters" Pair.listOfJson? []
  let requestHeaders ← r.withDefault "requestHeaders" Pair.listOfJson? []
  let requestBody ← r.withDefault "requestBody" Json.asString? ""
  let responseStatus ← r.required "responseStatus" (Json.asSigned? 32)
  let responseHeaders ← r.withDefault "responseHeaders" Pair.listOfJson? []
  let responseBody ← r.withDefault "responseBody" Json.asString? ""
  let extra ← r.withDefault "meta" some .null
  let session ← r.withDefault "sessionMeta" Session.ofJson? {}
  let createdAt ← r.withDefault "createdAt" Instant.ofJson? now
  let endpointId ← r.optionalDefault "endpointId" Uuid.ofJson?
  let analyzed ← r.withDefault "analyzed" Json.asBool? false
  pure
    { id, host, path, method, requestParameters, requestHeaders, requestBody, responseStatus,
      responseHeaders, responseBody, extra, session, createdAt, endpointId, analyzed }

end Trace

/-- The choice of a schema that comes with a queued trace; without one, the default schema. -/
structure Routing where
  schema : Option String := none
deriving DecidableEq, Repr, Inhabited

namespace Routing

/-- The JSON form of a choice. -/
def toJson (r : Routing) : Json :=
  .object (match r.schema with | none => [] | some s => [("schema", .string s)])

/-- Read a choice. -/
def ofJson? (v : Json) : Option Routing := do
  let r ← Json.Record.ofJson? ["schema"] v
  let schema ← r.optionalDefault "schema" Json.asString?
  pure ⟨schema⟩

end Routing

/-- A trace that waits for its analysis. -/
structure QueuedTrace where
  trace : Trace
  routing : Routing := {}
deriving DecidableEq, Inhabited

namespace QueuedTrace

/-- The JSON form of a queued trace. -/
def toJson (q : QueuedTrace) : Json :=
  .object [("ctx", q.routing.toJson), ("trace", q.trace.toJson)]

/-- Read a queued trace. -/
def ofJson? (fresh : Uuid) (now : Instant) (v : Json) : Option QueuedTrace := do
  let r ← Json.Record.ofJson? ["trace", "ctx"] v
  let trace ← r.required "trace" (Trace.ofJson? fresh now)
  let routing ← r.withDefault "ctx" Routing.ofJson? {}
  pure ⟨trace, routing⟩

end QueuedTrace

end TrafficLens
