import TrafficLens.Program.Transaction

/-!
# The service

A `Service` is what all operations share: the settings, the scanner, and where endpoints and waiting
traces are kept. Endpoints are kept in the database or in memory, and so is the queue; programs look
the same in both cases. Endpoints in the database are looked up and stored over any free
connection, outside all transactions, and such a statement is tried again after a transient
failure.
-/

namespace TrafficLens

/-- Where endpoints are kept. -/
inductive EndpointStore where
  | memory
  | database (retry : RetryPolicy)

namespace EndpointStore

/-- Ask the store in memory. -/
def askMemory (call : StoreCall) : Attempt call.Answer := do
  Attempt.ofExcept (← Attempt.ask (.store call))

/-- The endpoint of a host and a method whose pattern matches a path. -/
def findMatch (s : EndpointStore) (t : Tenant) (host method path : String) :
    Attempt (Option Endpoint) :=
  match s with
  | memory => askMemory (.findMatch host method path)
  | database retry => retryQuery retry (send .free t (.findMatch host method path))

/-- The endpoint with a template. -/
def findExact (s : EndpointStore) (t : Tenant) (host method template : String) :
    Attempt (Option Endpoint) :=
  match s with
  | memory => askMemory (.findExact host method template)
  | database retry => retryQuery retry (send .free t (.findExact host method template))

/-- The endpoint with an identifier. -/
def findById (s : EndpointStore) (t : Tenant) (id : Uuid) : Attempt (Option Endpoint) :=
  match s with
  | memory => askMemory (.findById id)
  | database retry => retryQuery retry (send .free t (.findById id))

/-- What the database's answer to an insertion means: a row with the same key is a conflict. -/
def insertOutcome : Except Failure Nat → Attempt InsertOutcome
  | .ok _ => pure .inserted
  | .error f => if f.isUniqueViolation then pure .conflict else throw f

/-- Store an endpoint, unless there is one with its host, method and path. -/
def insert (s : EndpointStore) (t : Tenant) (e : Endpoint) : Attempt InsertOutcome :=
  match s with
  | memory => askMemory (.insert e)
  | database retry => do
    insertOutcome (← (retryQuery retry (send .free t (.insertEndpoint e))).outcome)

end EndpointStore

/-- Where traces wait. -/
inductive TraceQueue where
  | memory
  | database
deriving DecidableEq, Repr

namespace TraceQueue

/-- Put an item on the queue. -/
def push (q : TraceQueue) (item : QueuedTrace) : Attempt Unit :=
  match q with
  | memory => do Attempt.ofExcept (← Attempt.ask (.pushItem item))
  | database => do
    let _ ← sendShared (.pushTrace item)
    pure ()

/-- Take the oldest item off the queue. An item that cannot be read is lost. -/
def pop (q : TraceQueue) : Attempt (Option QueuedTrace) :=
  match q with
  | memory => do Attempt.ofExcept (← Attempt.ask .popItem)
  | database => do
    match (← sendShared .popTrace : Option Json) with
    | none => pure none
    | some payload =>
      let ids ← freshIds
      let now ← currentTime
      match QueuedTrace.ofJson? (ids 0) now payload with
      | some item => pure (some item)
      | none => throw .malformed

/-- The number of items. -/
def count (q : TraceQueue) : Attempt Int :=
  match q with
  | memory => Attempt.ask .countItems
  | database => sendShared .countQueued

end TraceQueue

/-- Finds the endpoints of traces. -/
structure Resolver where
  store : EndpointStore
  policy : IdentifierPolicy
  bypass : Bypass

/-- What all operations share. -/
structure Service where
  settings : Settings
  scanner : Scanner
  retry : RetryPolicy
  resolver : Resolver
  queue : TraceQueue
  /-- A job that pages through traces stops after so many pages. -/
  maxPages : Nat

namespace Service

/-- Where the service keeps its data, and how long its jobs may be. -/
structure Placement where
  endpointsInMemory : Bool := false
  queueInMemory : Bool := false
  maxPages : Nat

/-- The service with the given settings. -/
def ofSettings (settings : Settings) (placement : Placement) : Except Failure Service := do
  let scanner ← PatternScanner.ofSettings settings.scanner
  let retry := RetryPolicy.ofSettings settings.retry
  pure
    { settings, retry
      scanner := scanner.toScanner
      resolver :=
        { store := if placement.endpointsInMemory then .memory else .database retry
          policy := settings.policy
          bypass := .generated }
      queue := if placement.queueInMemory then .memory else .database
      maxPages := placement.maxPages }

/-- The tenant of traces that come without a choice of schema. -/
def defaultTenant (s : Service) : Except Failure Tenant :=
  Tenant.ofSchema s.settings.service.defaultSchema

/-- The tenant that a queued trace belongs to. -/
def tenantOf (s : Service) (routing : Routing) : Except Failure Tenant :=
  Tenant.ofRouting routing s.settings.service.defaultSchema

/-- The schemas that hold the tables of a tenant and whose names begin in a given way. -/
def schemasWith (start : String) : Attempt (List String) := do
  let schemas ← sendShared .listSchemas
  pure (schemas.filter fun (s : String) => (Text.dropStart? start.toList s.toList).isSome)

/-- Add the tenants of some schemas to a list. Schemas that are in the list and texts that are no
schema names are passed over. -/
def addTenants (tenants : List Tenant) : List String → List Tenant
  | [] => tenants
  | schema :: rest =>
    if tenants.any fun t => t.schema == schema then addTenants tenants rest
    else
      match Tenant.ofSchema schema with
      | .ok t => addTenants (tenants ++ [t]) rest
      | .error _ => addTenants tenants rest

/-- The tenants that jobs look after: the default one first, then the others in the order of the
database. -/
def jobTenants (s : Service) : Attempt (List Tenant) := do
  let first ← Attempt.ofExcept s.defaultTenant
  let schemas ← schemasWith s.settings.jobs.schemaStart
  pure (addTenants [first] schemas)

end Service

end TrafficLens
