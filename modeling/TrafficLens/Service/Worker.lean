import TrafficLens.Service.Processing

/-!
# Workers

A worker takes traces off the queue and processes them on a connection that it keeps from one trace
to the next. A connection that is lost is closed, and the next trace gets another one. A trace that
fails is dropped.
-/

namespace TrafficLens.Service

/-- Process a queued trace on the connection that the worker holds, or on a new one. The answer
says what became of the trace, and which connection the worker holds now. -/
def work (s : Service) (held : Option ConnectionId) (item : QueuedTrace) :
    Attempt (Except Failure Disposition × Option ConnectionId) := do
  match s.tenantOf item.routing with
  | .error f => pure (.error f, held)
  | .ok t =>
    let connection ←
      match held with
      | some c => pure (Except.ok c)
      | none => Attempt.ask .checkout
    match connection with
    | .error e => pure (.error (.database e), none)
    | .ok c =>
      match ← (s.process c t item.trace).outcome with
      | .ok d => pure (.ok d, some c)
      | .error f =>
        if f.losesConnection then
          Attempt.ask (.discard c)
          pure (.error f, none)
        else pure (.error f, some c)

/-- The number of workers, if the machine has so many processors. -/
def workerCount (s : Service) (processors : Nat) : Nat :=
  max (s.settings.worker.concurrency.getD processors) 1

/-- Work until the queue in memory is empty, in at most so many rounds. A round in which the queue
fails or has nothing is a pause. -/
def workUntilEmpty (s : Service) : (rounds : Nat) → Option ConnectionId → Attempt Unit
  | 0, held => letGo held
  | rounds + 1, held => do
    let waiting : Int ← Attempt.ask .countItems
    if waiting = 0 then letGo held
    else
      match ← s.queue.pop.outcome with
      | .ok (some item) => do
        let (_, held) ← s.work held item
        workUntilEmpty s rounds held
      | _ => do
        pause s.settings.worker.idleSleepMillis
        workUntilEmpty s rounds held
where
  /-- Give back the connection that a worker holds. -/
  letGo : Option ConnectionId → Attempt Unit
    | none => pure ()
    | some c => Attempt.ask (.giveBack c)

end TrafficLens.Service
