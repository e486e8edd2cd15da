import TrafficLens.Service.Backfill
import TrafficLens.Service.Rollup
import TrafficLens.Service.Sweep
import TrafficLens.Service.TransportSecurity

/-!
# Jobs

A `Job` is an operation that runs on a schedule or on demand, for one tenant or for all of them. A
run for all tenants reports by schema, and a tenant whose run fails does not keep the others from
theirs.
-/

namespace TrafficLens

/-- An operation that runs on a schedule. -/
inductive Job where
  | backfill | sweep | openapi | rollup | hsts
deriving DecidableEq, Repr

namespace Job

/-- All jobs. -/
def all : List Job := [backfill, sweep, openapi, rollup, hsts]

/-- The name of a job. -/
def name : Job → String
  | backfill => "backfill"
  | sweep => "sweep"
  | openapi => "openapi"
  | rollup => "rollup"
  | hsts => "hsts"

/-- The job with a name, in any case. -/
def ofName? (s : String) : Option Job :=
  match s.toLower with
  | "backfill" => some backfill
  | "sweep" => some sweep
  | "openapi" => some openapi
  | "rollup" => some rollup
  | "hsts" => some hsts
  | _ => none

/-- The time between two runs of a job; a job that is never due has none. -/
def intervalMinutes (s : JobSettings) : Job → Nat
  | backfill => s.backfillIntervalMinutes
  | sweep => s.sweepIntervalMinutes
  | openapi => s.openapiIntervalMinutes
  | rollup => s.rollupIntervalMinutes
  | hsts => s.hstsIntervalMinutes

/-- The jobs that run on a schedule. -/
def scheduled (s : JobSettings) : List Job :=
  if s.enabled then all.filter fun j => 0 < j.intervalMinutes s else []

end Job

namespace Service

/-- Run a job for a tenant, and answer its report. -/
def runJob (s : Service) (t : Tenant) : Job → Attempt Json
  | .backfill => do pure (← s.backfill t).toJson
  | .sweep => do pure (← s.sweep t).toJson
  | .openapi => do pure (← s.generate t).toJson
  | .rollup => do pure (← rollup t).toJson
  | .hsts => do pure (← s.watchTransport t).toJson

/-- What a run is reported as. -/
def reportOf : Except Failure Json → Json
  | .ok report => report
  | .error f => .object [("error", .string f.message)]

/-- Run a job for some tenants, and collect the reports by schema. -/
def runJobFor (s : Service) (job : Job) :
    List (String × Json) → List Tenant → Attempt (List (String × Json))
  | reports, [] => pure reports
  | reports, t :: rest => do
    let outcome ← (s.runJob t job).outcome
    runJobFor s job (Dict.insert t.schema (reportOf outcome) reports) rest

/-- Run a job for all tenants, and collect the reports by schema. -/
def runJobEverywhere (s : Service) (job : Job) : Attempt (List (String × Json)) := do
  let tenants ← s.jobTenants
  s.runJobFor job [] tenants

end Service

end TrafficLens
