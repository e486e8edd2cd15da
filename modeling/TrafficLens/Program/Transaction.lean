import TrafficLens.Program.Basic
import TrafficLens.Retry

/-!
# Transactions and retried steps

`transaction` runs an attempt inside a level of a connection: the level is committed when the
attempt succeeds and rolled back when it fails. The failure of the attempt is what is reported, even
if the rollback fails too.

`retryStep` runs one step of a transaction inside a level of its own and tries it again after a
transient failure, so that a step that failed half way leaves nothing behind. A failure to open, to
commit or to roll back the level is reported at once. `retryQuery` is for what needs no level.
-/

namespace TrafficLens

variable {α : Type}

/-- Open a level. -/
def openLevel (c : ConnectionId) : Attempt Unit := do
  Attempt.ofReply (← Attempt.ask (.openLevel c))

/-- Commit the innermost level. -/
def commitLevel (c : ConnectionId) : Attempt Unit := do
  Attempt.ofReply (← Attempt.ask (.commitLevel c))

/-- Roll the innermost level back. -/
def rollbackLevel (c : ConnectionId) : Attempt Unit := do
  Attempt.ofReply (← Attempt.ask (.rollbackLevel c))

/-- Let at most so much time pass. -/
def pause (millis : Nat) : Attempt Unit := Attempt.ask (.wait millis)

/-- Run an attempt inside a level. -/
def transaction (c : ConnectionId) (body : Attempt α) : Attempt α := do
  openLevel c
  match ← body.outcome with
  | .ok a =>
    commitLevel c
    pure a
  | .error f =>
    let _ ← (rollbackLevel c).outcome
    throw f

/-- Run a step inside a level, and at most `left` times again; `failures` tries failed before. -/
def retryStepFrom (p : RetryPolicy) (c : ConnectionId) (step : Attempt α) :
    (left failures : Nat) → Attempt α
  | left, failures => do
    openLevel c
    match ← step.outcome with
    | .ok a =>
      commitLevel c
      pure a
    | .error f =>
      rollbackLevel c
      match left with
      | 0 => throw f
      | left + 1 =>
        if f.isTransient then
          pause (p.delayBound failures)
          retryStepFrom p c step left (failures + 1)
        else throw f

/-- Run a step of a transaction, and again after transient failures as often as the policy
allows. -/
def retryStep (p : RetryPolicy) (c : ConnectionId) (step : Attempt α) : Attempt α :=
  retryStepFrom p c step p.retries 0

/-- Run a query that needs no transaction, and again after transient failures. -/
def retryQuery (p : RetryPolicy) (query : Attempt α) : Attempt α :=
  ExceptT.mk (p.retry (fun millis => Program.ask (.wait millis)) query.run)

end TrafficLens
