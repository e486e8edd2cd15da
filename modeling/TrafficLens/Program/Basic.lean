import TrafficLens.Store.Command
import TrafficLens.Store.Memory

/-!
# Programs

A `Program` is what the service does, without doing it: a tree of requests to the world, each with
what is done next for every reply. Everything that the outcome can depend on, the clock, fresh
identifiers, the database, stores in memory and other services, is a request, so a program has the
same behaviour whenever it gets the same replies. `Program.run` lets a handler with a state answer
the requests.

Connections to the database are named by numbers. A statement goes over a connection that is held,
or over any that is free. On a held connection *levels* can be opened: the first one is a
transaction, and one inside it is a savepoint. Every level is closed by a commit or a rollback, or
it is abandoned.
-/

namespace TrafficLens

/-- A connection that is held, by number. -/
abbrev ConnectionId : Type := Nat

/-- The way of a statement to the database. -/
inductive Route where
  /-- Over any free connection. -/
  | free
  /-- Over a connection that is held. -/
  | held (connection : ConnectionId)
deriving DecidableEq, Repr

/-- What a service answered to a probe. -/
inductive ProbeAnswer where
  /-- It answered with headers of these names. -/
  | answered (headers : List String)
  | unanswered
deriving DecidableEq, Repr

/-- What a program asks of the world. -/
inductive Request where
  | now
  /-- A supply of identifiers that were never used before. -/
  | freshIds
  /-- Let at most so much time pass. -/
  | wait (millis : Nat)
  /-- Hold a connection. -/
  | checkout
  /-- Let go of a connection that others may use. -/
  | giveBack (connection : ConnectionId)
  /-- Close a connection. -/
  | discard (connection : ConnectionId)
  | openLevel (connection : ConnectionId)
  | commitLevel (connection : ConnectionId)
  | rollbackLevel (connection : ConnectionId)
  | abandonLevel (connection : ConnectionId)
  | command (route : Route) (tenant : Tenant) (command : Command)
  | shared (command : SharedCommand)
  /-- Ask the store of endpoints in memory. -/
  | store (call : StoreCall)
  /-- Put an item on the queue in memory. -/
  | pushItem (item : QueuedTrace)
  /-- Take an item off the queue in memory. -/
  | popItem
  /-- The length of the queue in memory. -/
  | countItems
  /-- Send a request without a body to a service. -/
  | probe (url : String)

namespace Request

/-- The type of the reply to a request. -/
def Reply : Request → Type
  | now => Instant
  | freshIds => Nat → Uuid
  | checkout => Except DatabaseError ConnectionId
  | wait .. | giveBack .. | discard .. | abandonLevel .. => Unit
  | openLevel .. | commitLevel .. | rollbackLevel .. => Except DatabaseError Unit
  | command _ _ c => Except DatabaseError c.Answer
  | shared c => Except DatabaseError c.Answer
  | store c => Except Failure c.Answer
  | pushItem .. => Except Failure Unit
  | popItem => Except Failure (Option QueuedTrace)
  | countItems => Int
  | probe .. => ProbeAnswer

end Request

/-- A tree of requests with a result of type `α` at each leaf. -/
inductive Program (α : Type) : Type where
  | done (value : α)
  | request (r : Request) (next : r.Reply → Program α)

namespace Program

variable {α β : Type}

/-- One program after another. -/
def andThen : Program α → (α → Program β) → Program β
  | done a, f => f a
  | request r next, f => request r fun reply => andThen (next reply) f

instance : Monad Program where
  pure := done
  bind := andThen

/-- The program of one request. -/
def ask (r : Request) : Program r.Reply := request r done

/-- Run a program; the handler answers the requests. -/
def run {σ : Type} (handle : (r : Request) → σ → r.Reply × σ) : Program α → σ → α × σ
  | done a, s => (a, s)
  | request r next, s =>
    let (reply, s) := handle r s
    run handle (next reply) s

end Program

/-- A program that may fail. -/
abbrev Attempt (α : Type) : Type := ExceptT Failure Program α

namespace Attempt

variable {α : Type}

/-- Ask for something. -/
def ask (r : Request) : Attempt r.Reply := ExceptT.lift (Program.ask r)

/-- Carry on with the outcome of something that may have failed. -/
def ofExcept : Except Failure α → Attempt α
  | .ok a => pure a
  | .error f => throw f

/-- Carry on with the reply of the database. -/
def ofReply : Except DatabaseError α → Attempt α
  | .ok a => pure a
  | .error e => throw (.database e)

/-- The outcome of an attempt, as a value. -/
def outcome (a : Attempt α) : Attempt (Except Failure α) := ExceptT.lift a.run

end Attempt

/-- The present. -/
def currentTime : Attempt Instant := Attempt.ask .now

/-- A supply of identifiers that were never used before. -/
def freshIds : Attempt (Nat → Uuid) := Attempt.ask .freshIds

/-- Send a command of a tenant to the database. -/
def send (route : Route) (tenant : Tenant) (command : Command) : Attempt command.Answer := do
  Attempt.ofReply (← Attempt.ask (.command route tenant command))

/-- Send a shared command to the database. -/
def sendShared (command : SharedCommand) : Attempt command.Answer := do
  Attempt.ofReply (← Attempt.ask (.shared command))

/-- Hold a connection during an attempt. It is given back however the attempt ends. -/
def withConnection {α : Type} (body : ConnectionId → Attempt α) : Attempt α := do
  let connection ← Attempt.ofReply (← Attempt.ask .checkout)
  let outcome ← (body connection).outcome
  Attempt.ask (.giveBack connection)
  Attempt.ofExcept outcome

end TrafficLens
