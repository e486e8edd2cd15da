import TrafficLens.Service.Basic

/-!
# Finding the endpoint of a trace

A trace belongs to the stored endpoint of its host and method whose pattern matches its path,
unless the bypass refuses it. If there is none, the template of the path becomes a new endpoint;
somebody else may have stored it in the meantime, and then theirs is taken. A response that says
"not found" never makes an endpoint.
-/

namespace TrafficLens

/-- What became of a trace's endpoint. -/
inductive Resolution where
  | resolved (endpoint : Endpoint) (isNew : Bool)
  /-- There can be no endpoint for the trace. -/
  | unresolvable
  /-- The endpoint could not be made; the trace is to be kept for later. -/
  | deferred
deriving DecidableEq

namespace Resolver

/-- The stored endpoint for a path, if the bypass accepts it. -/
def find (r : Resolver) (t : Tenant) (host method path : String) : Attempt (Option Endpoint) := do
  let found ← r.store.findMatch t host method path
  pure (found.filter fun e => !r.bypass.refuses r.policy e path)

/-- Make the endpoint of a template, or take the one that is there. -/
def create (r : Resolver) (t : Tenant) (host method : String) (template : PathTemplate) :
    Attempt Resolution := do
  let ids ← freshIds
  let endpoint := Endpoint.ofTemplate (ids 0) host method template
  match ← (r.store.insert t endpoint).outcome with
  | .ok .inserted => pure (.resolved endpoint true)
  | .ok .conflict =>
    match ← r.store.findExact t host method template.path with
    | some existing => pure (.resolved existing false)
    | none => pure .deferred
  | .error _ => pure .deferred

/-- Find the endpoint of a trace. -/
def resolve (r : Resolver) (t : Tenant) (trace : Trace) : Attempt Resolution := do
  let path := Path.normalize trace.path
  if path.isEmpty then pure .unresolvable
  else
    let method := trace.method.toUpper
    match ← r.find t trace.host method path with
    | some endpoint => pure (.resolved endpoint false)
    | none =>
      if trace.isNotFound then pure .unresolvable
      else
        match r.policy.infer path with
        | some template => r.create t trace.host method template
        | none => pure .unresolvable

end Resolver

end TrafficLens
