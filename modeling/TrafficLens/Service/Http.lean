import TrafficLens.Service.Job
import TrafficLens.Text.Utf8

/-!
# The interface over HTTP

Four routes: the health of the database, the version, a route that takes a trace, and one that runs
a job at once, for one tenant or for all. Failures are told apart by status, and their answers say
what went wrong. Requests that do not get as far as a route's own checks, because there is no such
route or because their parts cannot be read, are answered without a body.
-/

namespace TrafficLens

/-- A request. -/
structure HttpRequest where
  method : String
  /-- The path, and behind a question mark the query. -/
  target : String
  contentType : Option String := none
  body : String := ""

/-- An answer. -/
structure HttpResponse where
  status : Nat
  body : Option Json := none
deriving DecidableEq

namespace Http

/-! ## Targets -/

/-- The bytes of a text in which a percent sign and two hexadecimal digits stand for a byte. -/
def percentBytes : List Nat → List Nat
  | 0x25 :: a :: b :: rest =>
    match Json.hexDigit? (Char.ofNat a), Json.hexDigit? (Char.ofNat b) with
    | some x, some y => (x * 16 + y) :: percentBytes rest
    | _, _ => 0x25 :: percentBytes (a :: b :: rest)
  | c :: rest => c :: percentBytes rest
  | [] => []

/-- The text of a part of a path, if it is UTF-8. -/
def pathPart? (s : String) : Option String := Utf8.decode? (percentBytes (Utf8.encode s))

/-- The text of a part of a query, where a plus sign stands for a blank. -/
def queryPart (cs : List Char) : String :=
  let spaced := cs.map fun c => if c = '+' then ' ' else c
  Utf8.decodeLossy (percentBytes (Utf8.encode (String.ofList spaced)))

/-- The pairs of a query. -/
def queryPairs (query : String) : List (String × String) :=
  ((Text.pieces '&' query.toList).filter fun p => !p.isEmpty).map fun p =>
    match Text.cut? '=' p with
    | some (name, value) => (queryPart name, queryPart value)
    | none => (queryPart p, "")

/-- The path and the query of a target. -/
def splitTarget (target : String) : String × String :=
  let cs := target.toList.takeWhile (· ≠ '#')
  match Text.cut? '?' cs with
  | some (path, query) => (String.ofList path, String.ofList query)
  | none => (String.ofList cs, "")

/-! ## Content types -/

/-- May the character stand in a token? -/
def isTokenChar (c : Char) : Bool :=
  c.isAlphanum || "!#$%&'*+-.^_|~".toList.contains c || c == Char.ofNat 0x60

/-- The rest behind a quoted value: after the closing quote blanks may stand, and then the end or
the next parameter. -/
def afterQuoted : List Char → Option (List Char)
  | [] => some []
  | ';' :: rest => some rest
  | ' ' :: rest => afterQuoted rest
  | _ :: _ => none

/-- The rest behind the characters of a quoted value, which is not empty. -/
def quotedValue? : (isFirst : Bool) → List Char → Option (List Char)
  | _, [] => none
  | isFirst, '"' :: rest => if isFirst then none else afterQuoted rest
  | _, '\\' :: c :: rest => if c.toNat < 32 then none else quotedValue? false rest
  | _, c :: rest => if c.toNat < 32 then none else quotedValue? false rest

/-- The rest behind the value of a parameter. -/
def parameterValue? (cs : List Char) : Option (List Char) :=
  match cs with
  | '"' :: rest => quotedValue? true rest
  | _ =>
    match cs.dropWhile isTokenChar with
    | [] => some []
    | ';' :: rest => if (cs.takeWhile isTokenChar).isEmpty then none else some rest
    | _ => none

/-- Are these parameters of a content type? The fuel bounds their number. -/
def areParameters : (fuel : Nat) → List Char → Bool
  | 0, cs => cs.isEmpty
  | fuel + 1, cs =>
    match cs.dropWhile (· == ' ') with
    | [] => true
    | cs =>
      let name := cs.takeWhile isTokenChar
      match cs.dropWhile isTokenChar with
      | '=' :: rest =>
        !name.isEmpty &&
          (match parameterValue? rest with
           | some rest => areParameters fuel rest
           | none => false)
      | _ => false

/-- The two parts of a subtype, before and after the last plus sign that does not stand first. -/
def splitSuffix (cs : List Char) : List Char × List Char :=
  match Text.cut? '+' cs.reverse with
  | some (suffix, subtype) => if subtype.isEmpty then (cs, []) else (subtype.reverse, suffix.reverse)
  | none => (cs, [])

/-- Does the content type say that the body is JSON? -/
def isJson (contentType : String) : Bool :=
  match Text.cut? '/' contentType.toList with
  | none => false
  | some (type, rest) =>
    let subtype := rest.takeWhile (· ≠ ';')
    let (main, suffix) := splitSuffix subtype
    let lower := fun (cs : List Char) => (String.ofList cs).toLower
    lower type == "application" && subtype.all isTokenChar &&
      areParameters rest.length ((rest.dropWhile (· ≠ ';')).drop 1) &&
      (lower main == "json" || lower suffix == "json")

/-! ## Answers -/

/-- The version of the service. -/
def version : String := "0.1.0"

/-- The name of the service. -/
def serviceName : String := "apiscope-server"

/-- An answer that tells what went wrong. -/
def failed (status : Nat) (message : String) : HttpResponse :=
  { status, body := some (.object [("error", .string message), ("status", .string "error")]) }

/-- An answer to a request that did not get as far as a route. -/
def rejected (status : Nat) : HttpResponse := { status }

/-- The health of the database. -/
def health (s : Service) : Attempt HttpResponse := do
  match ← (Attempt.ask (.shared .serverVersion) : Attempt (Except DatabaseError String)) with
  | .ok server => do
    let queued ← s.queue.count.outcome
    pure
      { status := 200
        body := some (.object
          [("postgresql", .string server),
           ("queued", match queued with | .ok n => .int n | .error _ => .null),
           ("status", .string "healthy"), ("version", .string version)]) }
  | .error e =>
    pure
      { status := 503
        body := some
          (.object [("error", .string e.message), ("status", .string "unhealthy")]) }

/-- The version. -/
def versionAnswer : HttpResponse :=
  { status := 200
    body := some (.object [("name", .string serviceName), ("version", .string version)]) }

/-- Put a trace on the queue. -/
def enqueue (s : Service) (item : QueuedTrace) : Attempt HttpResponse :=
  if (Text.trim item.trace.host).isEmpty || (Text.trim item.trace.method).isEmpty then
    pure (failed 400 "trace host and method are required")
  else
    match s.tenantOf item.routing with
    | .error f => pure (failed 400 f.message)
    | .ok _ => do
      match ← (s.queue.push item).outcome with
      | .ok () =>
        pure
          { status := 202
            body := some
              (.object [("id", item.trace.id.toJson), ("status", .string "queued")]) }
      | .error f => pure (failed 500 f.message)

/-- The answer to a request for a job. -/
def jobAnswer (job : Job) : Except Failure (List (String × Json)) → HttpResponse
  | .ok reports =>
    { status := 200
      body := some (.object
        [("job", .string job.name), ("reports", .object reports), ("status", .string "ok")]) }
  | .error f =>
    { status := 500
      body := some (.object
        [("error", .string f.message), ("job", .string job.name), ("status", .string "error")]) }

/-- Run a job, for the tenant of a schema or for all of them. -/
def runJob (s : Service) (name : String) (schema : Option String) : Attempt HttpResponse :=
  match Job.ofName? name with
  | none => pure (failed 404 ("unknown job '" ++ name ++ "'"))
  | some job =>
    match schema with
    | none => do pure (jobAnswer job (← (s.runJobEverywhere job).outcome))
    | some schema =>
      match Tenant.ofSchema schema with
      | .error f => pure (failed 400 f.message)
      | .ok t => do
        let outcome ← (s.runJob t job).outcome
        pure (jobAnswer job (outcome.map fun report => [(t.schema, report)]))

/-! ## Routes -/

/-- Take a trace out of a body. What follows the value in the body is ignored. -/
def takeTrace (s : Service) (request : HttpRequest) : Attempt HttpResponse :=
  if request.contentType.any isJson then
    match Json.parsePrefix? request.body with
    | none => pure (rejected 400)
    | some (v, _) => do
      let ids ← freshIds
      let now ← currentTime
      match QueuedTrace.ofJson? (ids 0) now v with
      | none => pure (rejected 422)
      | some item => enqueue s item
  else pure (rejected 415)

/-- Run the job that a target names. -/
def takeJob (s : Service) (name query : String) : Attempt HttpResponse :=
  match pathPart? name with
  | none => pure (rejected 400)
  | some name =>
    match (queryPairs query).filter fun p => p.1 == "context" with
    | [] => runJob s name none
    | [(_, schema)] => runJob s name (some schema)
    | _ => pure (rejected 400)

/-- The name of the job that a path asks for. -/
def jobOf? (path : String) : Option String :=
  match Text.dropStart? "/jobs/".toList path.toList with
  | some (c :: cs) => if (c :: cs).contains '/' then none else some (String.ofList (c :: cs))
  | _ => none

/-- Answer a method that asks for a representation, or only for the status that it would have. -/
def representation (method : String) (a : Attempt HttpResponse) : Attempt HttpResponse :=
  if method == "GET" then a
  else if method == "HEAD" then do pure { ← a with body := none }
  else pure (rejected 405)

/-- Answer a method that has an effect. -/
def effect (method : String) (a : Attempt HttpResponse) : Attempt HttpResponse :=
  if method == "POST" then a else pure (rejected 405)

/-- Answer a request. -/
def answer (s : Service) (request : HttpRequest) : Attempt HttpResponse :=
  let (path, query) := splitTarget request.target
  if path == "/health" then representation request.method (health s)
  else if path == "/version" then representation request.method (pure versionAnswer)
  else if path == "/traces" then effect request.method (takeTrace s request)
  else
    match jobOf? path with
    | some name => effect request.method (takeJob s name query)
    | none => pure (rejected 404)

end Http

end TrafficLens
