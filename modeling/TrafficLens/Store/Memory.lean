import TrafficLens.Pattern.Basic
import TrafficLens.Traffic.Endpoint

/-!
# Endpoints in memory

A `StoreCall` is one question to a store of endpoints; each is answered in one step that nobody
else can get in between. `MemoryStore` keeps endpoints in the order of their insertion and never
keeps two with the same host, method and path.
-/

namespace TrafficLens

/-- What comes of storing an endpoint. -/
inductive InsertOutcome where
  | inserted
  /-- There already is an endpoint with the same host, method and path. -/
  | conflict
deriving DecidableEq, Repr

/-- A question to a store of endpoints. -/
inductive StoreCall where
  /-- The endpoint of a host and a method whose pattern matches a path; of several, one with the
  fewest placeholders. -/
  | findMatch (host method path : String)
  /-- The endpoint with a template. -/
  | findExact (host method template : String)
  | findById (id : Uuid)
  | insert (endpoint : Endpoint)
deriving DecidableEq

/-- What comes back. -/
def StoreCall.Answer : StoreCall → Type
  | .insert _ => InsertOutcome
  | _ => Option Endpoint

/-- Endpoints in the order of their insertion. -/
abbrev MemoryStore : Type := List Endpoint

namespace MemoryStore

/-- The first of the endpoints with the fewest placeholders. -/
def fewest : List Endpoint → Option Endpoint
  | [] => none
  | e :: rest =>
    match fewest rest with
    | none => some e
    | some best => if best.numberParams < e.numberParams then some best else some e

/-- The endpoint whose pattern matches a path. -/
def findMatch (s : MemoryStore) (host method path : String) : Option Endpoint :=
  fewest (s.filter fun e =>
    e.host == host && e.method == method && Pattern.isMatch e.pathPattern path)

/-- The endpoint with a template. -/
def findExact (s : MemoryStore) (host method template : String) : Option Endpoint :=
  s.find? fun e => e.hasKey host method template

/-- The endpoint with an identifier. -/
def findById (s : MemoryStore) (id : Uuid) : Option Endpoint := s.find? fun e => e.id == id

/-- Store an endpoint, unless there is one with its host, method and path. -/
def insert (s : MemoryStore) (e : Endpoint) : InsertOutcome × MemoryStore :=
  if s.any fun f => f.hasKey e.host e.method e.path then (.conflict, s) else (.inserted, s ++ [e])

/-- Answer a question. -/
def perform (s : MemoryStore) : (call : StoreCall) → call.Answer × MemoryStore
  | .findMatch host method path => (s.findMatch host method path, s)
  | .findExact host method template => (s.findExact host method template, s)
  | .findById id => (s.findById id, s)
  | .insert e => s.insert e

end MemoryStore

end TrafficLens
