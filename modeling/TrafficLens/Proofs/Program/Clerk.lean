import TrafficLens.Proofs.Program.Transcript

/-!
# A clerk

The examples of what is proved about all transcripts need somebody who replies. A `Clerk` has a
database without rows, in which every command that changes rows changes one, and a store in memory
that works. Requests to the database can be refused: the plan says which of the next ones are.
-/

namespace TrafficLens

/-- What a database without rows answers to a command. -/
def Command.plainAnswer : (command : Command) → command.Answer
  | findMatch .. | findExact .. | findById .. => (none : Option Endpoint)
  | lockEndpoint .. | freezeView => ()
  | loadFields .. => ([] : List Field)
  | loadUploaded .. => (none : Option Json)
  | fetchUnlinked .. | fetchUnanalyzed .. | fetchSince .. | latestTraces => ([] : List Trace)
  | listUndocumented | listEndpoints => ([] : List Endpoint)
  | loadDocument .. => (none : Option Document)
  | countRollable .. => (0 : Int)
  | insertEndpoint .. | insertTrace .. | markAnalyzed .. | upsertField .. | insertAlert ..
  | updateEndpoint .. | linkTraces .. | widenDates .. | saveDocument .. | linkDocument ..
  | rollMinutes .. | rollHours .. | deleteRolled .. => (1 : Nat)

/-- What such a database answers to a command to the parts that tenants share. -/
def SharedCommand.plainAnswer : (command : SharedCommand) → command.Answer
  | pushTrace _ => (1 : Nat)
  | popTrace => (none : Option Json)
  | countQueued => (0 : Int)
  | serverVersion => ""
  | listSchemas => ([] : List String)

/-- Somebody who replies to requests. -/
structure Clerk where
  store : MemoryStore := []
  /-- The refusals of the next requests to the database, if any, in the order of the requests. -/
  plan : List (Option DatabaseError) := []
  /-- The number of supplies of identifiers that were given out. -/
  supplies : Nat := 0

namespace Clerk

/-- Answer a request to the database, unless it is to be refused. -/
def answer {α : Type} (a : α) (k : Clerk) : Except DatabaseError α × Clerk :=
  match k.plan with
  | [] => (.ok a, k)
  | none :: plan => (.ok a, { k with plan })
  | some e :: plan => (.error e, { k with plan })

/-- Reply to a request. -/
def reply : (r : Request) → Clerk → r.Reply × Clerk
  | .now, k => ((⟨0, 0⟩ : Instant), k)
  | .freshIds, k =>
    (fun n => Uuid.ofNat (k.supplies * Nat.pow 2 64 + n), { k with supplies := k.supplies + 1 })
  | .checkout, k => k.answer (0 : ConnectionId)
  | .wait _, k | .giveBack _, k | .discard _, k | .abandonLevel _, k => ((), k)
  | .openLevel _, k | .commitLevel _, k | .rollbackLevel _, k => k.answer ()
  | .command _ _ command, k => k.answer command.plainAnswer
  | .shared command, k => k.answer command.plainAnswer
  | .store call, k =>
    ((.ok (k.store.perform call).1 : Except Failure call.Answer),
      { k with store := (k.store.perform call).2 })
  | .pushItem _, k => ((.ok () : Except Failure Unit), k)
  | .popItem, k => ((.ok none : Except Failure (Option QueuedTrace)), k)
  | .countItems, k => ((0 : Int), k)
  | .probe _, k => (ProbeAnswer.unanswered, k)

/-- Run an attempt. -/
def attend {α : Type} (a : Attempt α) (k : Clerk) : Except Failure α × Clerk :=
  Program.run reply a.run k

/-- The transcript of the run. -/
def transcript {α : Type} (a : Attempt α) (k : Clerk) : List Event :=
  Program.transcript reply a.run k

theorem yields_transcript {α : Type} (a : Attempt α) (k : Clerk) :
    a.Yields (k.transcript a) (k.attend a).1 :=
  Program.yields_transcript reply a.run k

end Clerk

end TrafficLens
