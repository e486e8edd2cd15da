import TrafficLens.Program.Basic
import TrafficLens.Rehearsal.Script

/-!
# The world of a rehearsal

A rehearsal runs a program without a clock, a network or a database. The `World` answers the
requests: its clock stands still, no probe is answered, the database follows a script and every
statement that reaches it is kept in a log, and the store and the queue in memory are the real ones,
except that they can be made to fail.

A connection on which a level could not be closed, or was abandoned, *owes* the rollback of that
level. It is sent before the next statement of the connection, or when the connection is given back
or the rehearsal is over. If it is refused then so is the next statement, which is not sent.
-/

namespace TrafficLens

/-- A connection to the database. -/
structure Connection where
  /-- The number of open levels. -/
  depth : Nat := 0
  /-- Statements that are to be sent before all others. -/
  owed : List String := []
  isBroken : Bool := false

/-- What a store in memory does with a call. -/
inductive StoreFault where
  /-- It answers the call. -/
  | pass
  /-- It claims that there is such an endpoint. -/
  | conflict
  | fail (failure : Failure)

/-- What the store in memory does with the next calls of each kind. When a list is used up it
answers. -/
structure StoreFaults where
  insert : List StoreFault := []
  findMatch : List StoreFault := []
  findExact : List StoreFault := []

/-- What the requests of a program are answered from. -/
structure World where
  clock : Instant
  /-- Identifiers are counted from here. -/
  firstId : Nat
  /-- The number of supplies of identifiers that were given out. -/
  supplies : Nat := 0
  /-- The rules for the present step. -/
  rules : Script := []
  /-- The rules for all steps, which come after those for one step. -/
  lastingRules : Script := []
  /-- The statements that reached the database, the last one first. -/
  sent : List Statement := []
  /-- The number of connections that were held. -/
  opened : Nat := 0
  connections : List (ConnectionId × Connection) := []
  store : MemoryStore := []
  faults : StoreFaults := {}
  queue : List QueuedTrace := []
  /-- So many attempts to take an item off the queue fail. -/
  queueFaults : Nat := 0

/-! ## The database -/

namespace World

/-- The failure of a connection that is broken. -/
def brokenConnection : DatabaseError := .broken "expected to read 5 bytes, got 0 bytes at EOF"

/-- The failure of a statement that is refused with a code. -/
def refusal (code : String) : DatabaseError := .server (some code) "scripted"

/-- What the server does with a statement that reaches it. -/
def respond (s : Statement) : StateM World ServerAction := fun w =>
  let w := { w with sent := s :: w.sent }
  match w.rules.respond? s.text with
  | some (action, rules) => (action, { w with rules })
  | none =>
    match w.lastingRules.respond? s.text with
    | some (action, lastingRules) => (action, { w with lastingRules })
    | none => (.reply (Script.standardReply s.text), w)

end World

/-- What comes of a statement on a connection, and the connection after it. -/
abbrev Transfer (α : Type) : Type := Except DatabaseError α × Connection

namespace Connection

/-- Send a statement at once. -/
def sendNow (c : Connection) (s : Statement) : StateM World (Transfer DatabaseReply) :=
  if c.isBroken then pure (.error World.brokenConnection, c)
  else do
    match ← World.respond s with
    | .reply reply => pure (.ok reply, c)
    | .refuse code => pure (.error (World.refusal code), c)
    | .hangUp => pure (.error World.brokenConnection, { c with isBroken := true })

/-- Send statements until one fails, and owe those that are left. -/
def pay (c : Connection) : List String → StateM World (Transfer Unit)
  | [] => pure (.ok (), { c with owed := [] })
  | text :: rest => do
    match ← c.sendNow { text } with
    | (.ok _, c) => pay c rest
    | (.error e, c) => pure (.error e, { c with owed := rest })

/-- Send what is owed, and then a statement. -/
def send (c : Connection) (s : Statement) : StateM World (Transfer DatabaseReply) := do
  match ← c.pay c.owed with
  | (.ok (), c) => c.sendNow s
  | (.error e, c) => pure (.error e, c)

/-- Send everything that is owed, whatever comes of it. -/
def settle (c : Connection) : StateM World Connection :=
  c.owed.foldlM (fun c text => do pure (← c.sendNow { text }).2) { c with owed := [] }

/-! ## Levels -/

/-- The name of the savepoint that is opened at a depth. -/
def savepoint (depth : Nat) : String := "_sqlx_savepoint_" ++ toString depth

/-- The statement that opens a level. -/
def openText (depth : Nat) : String :=
  if depth = 0 then "BEGIN" else "SAVEPOINT " ++ savepoint depth

/-- The statement that commits the innermost of so many levels. -/
def commitText (depth : Nat) : String :=
  if depth ≤ 1 then "COMMIT" else "RELEASE SAVEPOINT " ++ savepoint (depth - 1)

/-- The statement that rolls the innermost of so many levels back. -/
def rollbackText (depth : Nat) : String :=
  if depth ≤ 1 then "ROLLBACK" else "ROLLBACK TO SAVEPOINT " ++ savepoint (depth - 1)

/-- Open a level. If that fails there is no such level. -/
def openLevel (c : Connection) : StateM World (Transfer Unit) := do
  match ← c.send { text := openText c.depth } with
  | (.ok _, c) => pure (.ok (), { c with depth := c.depth + 1 })
  | (.error e, c) => pure (.error e, c)

/-- Leave the innermost level open, and owe its rollback. -/
def abandonLevel (c : Connection) : Connection :=
  { c with depth := c.depth - 1, owed := c.owed ++ [rollbackText c.depth] }

/-- Close the innermost level by a statement. If that fails its rollback is owed. -/
def closeLevel (c : Connection) (text : String) : StateM World (Transfer Unit) := do
  match ← c.send { text } with
  | (.ok _, c) => pure (.ok (), { c with depth := c.depth - 1 })
  | (.error e, c) => pure (.error e, c.abandonLevel)

end Connection

namespace World

/-- Hold a connection. -/
def checkout : StateM World ConnectionId := fun w =>
  (w.opened,
    { w with opened := w.opened + 1, connections := Dict.insert w.opened {} w.connections })

/-- Do something on a connection that is held. -/
def onConnection {α : Type} (id : ConnectionId) (act : Connection → StateM World (Transfer α)) :
    StateM World (Except DatabaseError α) := do
  match Dict.find? id (← get).connections with
  | none => pure (.error brokenConnection)
  | some c => do
    let (outcome, c) ← act c
    modify fun w => { w with connections := Dict.insert id c w.connections }
    pure outcome

/-- Let go of a connection, without sending anything. -/
def release (id : ConnectionId) : StateM World Unit :=
  modify fun w => { w with connections := w.connections.filter fun e => e.1 != id }

/-- Send what a connection owes. -/
def settle (id : ConnectionId) : StateM World Unit := do
  let _ ← onConnection id fun c => do pure (Except.ok (), ← c.settle)

/-- Send what all connections owe. -/
def settleAll : StateM World Unit := do
  (← get).connections.forM fun e => settle e.1

/-- Send a statement. Any free connection will do for one that has no connection of its own. -/
def send (route : Route) (s : Statement) : StateM World (Except DatabaseError DatabaseReply) :=
  match route with
  | .free => do pure (← ({} : Connection).sendNow s).1
  | .held id => onConnection id fun c => c.send s

/-! ## The store and the queue in memory -/

/-- Take the next fault of a list. -/
def nextFault : List StoreFault → StoreFault × List StoreFault
  | [] => (.pass, [])
  | f :: rest => (f, rest)

/-- The next fault for a call. -/
def takeFault (call : StoreCall) : StateM World StoreFault := fun w =>
  match call with
  | .insert _ =>
    let (f, rest) := nextFault w.faults.insert
    (f, { w with faults := { w.faults with insert := rest } })
  | .findMatch .. =>
    let (f, rest) := nextFault w.faults.findMatch
    (f, { w with faults := { w.faults with findMatch := rest } })
  | .findExact .. =>
    let (f, rest) := nextFault w.faults.findExact
    (f, { w with faults := { w.faults with findExact := rest } })
  | .findById _ => (.pass, w)

/-- Ask the store in memory. -/
def askStore (call : StoreCall) : StateM World call.Answer := fun w =>
  let (answer, store) := w.store.perform call
  (answer, { w with store })

/-- Claim that an endpoint is there which is to be inserted. -/
def claimConflict : (call : StoreCall) → StateM World call.Answer
  | .insert _ => pure InsertOutcome.conflict
  | call => askStore call

/-- Ask the store in memory, unless it is made to fail. -/
def askFaultyStore (call : StoreCall) : StateM World (Except Failure call.Answer) := do
  match ← takeFault call with
  | .pass => do pure (.ok (← askStore call))
  | .fail f => pure (.error f)
  | .conflict => do pure (.ok (← claimConflict call))

/-- Take an item off the queue in memory. -/
def popItem : StateM World (Except Failure (Option QueuedTrace)) := fun w =>
  match w.queueFaults with
  | n + 1 => (.error (.other "scripted pop"), { w with queueFaults := n })
  | 0 =>
    match w.queue with
    | [] => (.ok none, w)
    | item :: rest => (.ok (some item), { w with queue := rest })

/-- A supply of identifiers that differs from all others. -/
def freshIds : StateM World (Nat → Uuid) := fun w =>
  (fun n => Uuid.ofNat (w.firstId + w.supplies * Nat.pow 2 64 + n),
    { w with supplies := w.supplies + 1 })

/-! ## Answering requests -/

/-- The reply to a request. -/
def reply : (r : Request) → StateM World r.Reply
  | .now => do pure (← get).clock
  | .freshIds => freshIds
  | .wait _ => pure ()
  | .checkout => do pure (.ok (← checkout))
  | .giveBack id => do
    settle id
    release id
  | .discard id => release id
  | .openLevel id => onConnection id Connection.openLevel
  | .commitLevel id => onConnection id fun c => c.closeLevel (Connection.commitText c.depth)
  | .rollbackLevel id => onConnection id fun c => c.closeLevel (Connection.rollbackText c.depth)
  | .abandonLevel id => do
    let _ ← onConnection id fun c => pure (Except.ok (), c.abandonLevel)
  | .command route t c => do
    pure ((← send route (c.statement t)).bind fun reply => c.read reply)
  | .shared c => do pure ((← send .free c.statement).bind fun reply => c.read reply)
  | .store call => askFaultyStore call
  | .pushItem item => do
    modify fun w => { w with queue := w.queue ++ [item] }
    pure (.ok ())
  | .popItem => popItem
  | .countItems => do pure ((← get).queue.length : Int)
  | .probe _ => pure .unanswered

/-- Rehearse an attempt in a world. -/
def rehearse {α : Type} (a : Attempt α) (w : World) : Except Failure α × World :=
  Program.run (fun r => (reply r).run) a.run w

/-- Begin a step with rules of its own. -/
def beginStep (rules : Script) (w : World) : World := { w with rules, sent := [] }

/-- End a step, and answer the statements that reached the database in it. -/
def endStep (w : World) : List Statement × World :=
  let w := (settleAll.run w).2
  (w.sent.reverse, w)

end World

end TrafficLens
