import TrafficLens.Proofs.Dict
import TrafficLens.Proofs.Program.Rehearsal
import TrafficLens.Proofs.Program.Uniform
import TrafficLens.Proofs.Store.Wording

/-!
# Rehearsals for two tenants

On a `Bench` everything that a program cannot foresee is laid out beforehand: what the clock says,
which identifiers are new, what services answer to probes, which connections are refused, and what
the database does with the first statement, the second one and so on. The answers come in this order
whatever the statements say (`Script.inOrder`), so that two rehearsals on one bench get the same
ones.

Rehearsals of a uniform attempt for two tenants send the same statements, but for the names in front
of the tables (`Bench.log_alike`), and those are the names of the tenants' own schemas
(`Bench.within_of_mem_log`). For the world of one rehearsal is the image of that of the other at
every step (`Bench.mirror`), which is shown for each request along the way of its statements.
-/

namespace TrafficLens

variable {α β : Type}

/-! ## Answers in order -/

namespace Script

/-- The answers of a list, one after another, and then another one for ever. -/
def inOrder (answers : List ServerAction) (last : ServerAction) : Script :=
  answers.map (fun action => { part := "", action, uses := some 1 }) ++
    [{ part := "", action := last }]

/-- Every statement is answered, and its text does not matter. -/
structure Impartial (script : Script) : Prop where
  part_eq : ∀ r ∈ script, r.part = ""
  exists_lasting : ∃ r ∈ script, r.uses = none

theorem impartial_inOrder (answers : List ServerAction) (last : ServerAction) :
    (inOrder answers last).Impartial where
  part_eq r hr := by
    rcases List.mem_append.1 hr with hr | hr
    · obtain ⟨_, -, rfl⟩ := List.mem_map.1 hr
      rfl
    · rw [List.mem_singleton.1 hr]
  exists_lasting := ⟨_, List.mem_append_right _ (List.mem_singleton_self _), rfl⟩

theorem applies_of_part {r : Rule} (h : r.part = "") (text : String) :
    r.applies text = (r.uses != some 0) := by
  have hoccurs : Text.occursIn "".toList text.toList = true := by
    cases text.toList <;> rfl
  rw [Rule.applies, h, hoccurs, Bool.and_true]

/-- The answer does not depend on the text. -/
theorem Impartial.exists_respond? {script : Script} (h : script.Impartial) :
    ∃ action after, Impartial after ∧ ∀ text, respond? text script = some (action, after) := by
  obtain ⟨hparts, lasting, hlasting, hforever⟩ := h
  induction script with
  | nil => cases hlasting
  | cons r rest ih =>
    obtain ⟨hr, hrest⟩ := List.forall_mem_cons.1 hparts
    by_cases huses : r.uses = some 0
    · have hmem : lasting ∈ rest := (List.mem_cons.1 hlasting).resolve_left fun heq => by
        rw [heq, huses] at hforever
        cases hforever
      obtain ⟨action, after, hafter, hrespond⟩ := ih hrest hmem
      obtain ⟨lasting', hmem', hforever'⟩ := hafter.exists_lasting
      refine ⟨action, r :: after, ⟨List.forall_mem_cons.2 ⟨hr, hafter.part_eq⟩, lasting',
        List.mem_cons_of_mem _ hmem', hforever'⟩, fun text => ?_⟩
      rw [respond?, applies_of_part hr, huses, hrespond]
      rfl
    · refine ⟨r.action, r.used :: rest, ⟨List.forall_mem_cons.2 ⟨hr, hrest⟩, ?_⟩, fun text => ?_⟩
      · rcases List.mem_cons.1 hlasting with rfl | hmem
        · exact ⟨_, List.mem_cons_self, by rw [Rule.used, hforever, Option.map_none]⟩
        · exact ⟨lasting, List.mem_cons_of_mem _ hmem, hforever⟩
      · rw [respond?, applies_of_part hr, if_pos (bne_iff_ne.2 huses)]

end Script

/-! ## The world of the other tenant -/

/-- All tables that the statement names are the tenant's. -/
def Statement.Within (t : Tenant) (s : Statement) : Prop :=
  ∀ name ∈ s.tables, ∃ table ∈ Tenant.tableNames, name = t.table table

theorem Statement.Neutral.within {s : Statement} (h : s.Neutral) (t : Tenant) : s.Within t := by
  intro name hname
  rw [h.tables_eq] at hname
  cases hname

/-- All texts are rollbacks. -/
def Connection.AreRollbacks (texts : List String) : Prop :=
  ∀ text ∈ texts, ∃ depth, text = rollbackText depth

/-- The connection owes nothing but rollbacks. -/
def Connection.OwesRollbacks (c : Connection) : Prop := AreRollbacks c.owed

/-- All connections owe nothing but rollbacks. -/
def World.OwesRollbacks (w : World) : Prop := ∀ e ∈ w.connections, e.2.OwesRollbacks

/-- What holds of worlds in which only a tenant's statements were sent. -/
structure World.Faithful (t : Tenant) (w : World) : Prop where
  impartial : Script.Impartial w.rules
  owes : w.OwesRollbacks
  within : ∀ s ∈ w.sent, s.Within t

/-- The world of one tenant shown as that of another. -/
def World.mirror (t u : Tenant) : Mirror World where
  invariant := Faithful t
  image w := { w with sent := w.sent.map (Statement.rename t.schema u.schema) }

variable {t u : Tenant}

theorem World.shows_respond {s : Statement} (hs : s.Within t) :
    (mirror t u).Shows (respond s) (respond (s.rename t.schema u.schema)) := by
  intro w hw
  obtain ⟨action, rules, hrules, hrespond⟩ := hw.impartial.exists_respond?
  have hrun : ∀ (w' : World) (s' : Statement), w'.rules = w.rules →
      (respond s').run w' = (action, { w' with sent := s' :: w'.sent, rules }) := by
    intro w' s' hw'
    simp only [respond, StateT.run, hw', hrespond]
  refine ⟨trivial, ?_, ?_⟩
  · rw [hrun w s rfl]
    exact ⟨hrules, hw.owes, List.forall_mem_cons.2 ⟨hs, hw.within⟩⟩
  · rw [hrun w s rfl]
    exact hrun _ _ rfl

namespace Connection

/-- After a transfer the connection owes nothing but rollbacks. -/
def Transfers (x : Transfer α) : Prop := x.2.OwesRollbacks

variable {c : Connection}

theorem shows_sendNow (hc : c.OwesRollbacks) {s : Statement} (hs : s.Within t) :
    (World.mirror t u).ShowsWith Transfers (c.sendNow s)
      (c.sendNow (s.rename t.schema u.schema)) := by
  unfold sendNow
  split
  · exact Mirror.showsWith_pure hc
  · refine (World.shows_respond hs).bind fun action _ => ?_
    cases action with
    | reply r => exact Mirror.showsWith_pure hc
    | refuse code => exact Mirror.showsWith_pure hc
    | hangUp => exact Mirror.showsWith_pure hc

theorem shows_sendNow_of_neutral (hc : c.OwesRollbacks) {s : Statement} (hs : s.Neutral) :
    (World.mirror t u).ShowsWith Transfers (c.sendNow s) (c.sendNow s) := by
  have h := shows_sendNow (u := u) hc (hs.within t)
  rwa [hs.rename] at h

theorem shows_pay {texts : List String} (htexts : AreRollbacks texts) (hc : c.OwesRollbacks) :
    (World.mirror t u).ShowsWith Transfers (c.pay texts) (c.pay texts) := by
  induction texts generalizing c with
  | nil => exact Mirror.showsWith_pure fun text h => by cases h
  | cons text rest ih =>
    obtain ⟨⟨depth, rfl⟩, hrest⟩ := List.forall_mem_cons.1 htexts
    refine (shows_sendNow_of_neutral hc (neutral_rollbackText depth)).bind fun x hx => ?_
    obtain ⟨_ | _, c⟩ := x
    · exact Mirror.showsWith_pure hrest
    · exact ih hrest hx

theorem shows_send (hc : c.OwesRollbacks) {s : Statement} (hs : s.Within t) :
    (World.mirror t u).ShowsWith Transfers (c.send s) (c.send (s.rename t.schema u.schema)) := by
  refine (shows_pay hc hc).bind fun x hx => ?_
  obtain ⟨_ | _, c⟩ := x
  · exact Mirror.showsWith_pure hx
  · exact shows_sendNow hx hs

theorem shows_send_of_neutral (hc : c.OwesRollbacks) {s : Statement} (hs : s.Neutral) :
    (World.mirror t u).ShowsWith Transfers (c.send s) (c.send s) := by
  have h := shows_send (u := u) hc (hs.within t)
  rwa [hs.rename] at h

theorem shows_settle (hc : c.OwesRollbacks) :
    (World.mirror t u).ShowsWith OwesRollbacks c.settle c.settle := by
  have hloop : ∀ (texts : List String) (d : Connection), AreRollbacks texts → d.OwesRollbacks →
      (World.mirror t u).ShowsWith OwesRollbacks
        (texts.foldlM (fun c text => do pure (← c.sendNow { text }).2) d)
        (texts.foldlM (fun c text => do pure (← c.sendNow { text }).2) d) := by
    intro texts
    induction texts with
    | nil => exact fun d _ hd => Mirror.showsWith_pure hd
    | cons text rest ih =>
      intro d htexts hd
      obtain ⟨⟨depth, rfl⟩, hrest⟩ := List.forall_mem_cons.1 htexts
      rw [List.foldlM_cons]
      refine Mirror.ShowsWith.bind (P := OwesRollbacks) ?_ fun d hd => ih d hrest hd
      exact (shows_sendNow_of_neutral hd (neutral_rollbackText depth)).bind fun x hx =>
        Mirror.showsWith_pure hx
  exact hloop c.owed _ hc fun text h => by cases h

theorem OwesRollbacks.abandonLevel (hc : c.OwesRollbacks) : c.abandonLevel.OwesRollbacks := by
  intro text h
  rcases List.mem_append.1 h with h | h
  · exact hc text h
  · exact ⟨c.depth, List.mem_singleton.1 h⟩

theorem shows_openLevel (hc : c.OwesRollbacks) :
    (World.mirror t u).ShowsWith Transfers c.openLevel c.openLevel := by
  refine (shows_send_of_neutral hc (neutral_openText c.depth)).bind fun x hx => ?_
  obtain ⟨_ | _, c⟩ := x
  · exact Mirror.showsWith_pure hx
  · exact Mirror.showsWith_pure hx

theorem shows_closeLevel (hc : c.OwesRollbacks) {text : String}
    (htext : Statement.Neutral { text }) :
    (World.mirror t u).ShowsWith Transfers (c.closeLevel text) (c.closeLevel text) := by
  refine (shows_send_of_neutral hc htext).bind fun x hx => ?_
  obtain ⟨_ | _, c⟩ := x
  · exact Mirror.showsWith_pure (OwesRollbacks.abandonLevel hx)
  · exact Mirror.showsWith_pure hx

end Connection

/-! ## Requests -/

namespace World

open Connection

theorem run_onConnection {id : ConnectionId} {w : World} {c : Connection}
    (hc : Dict.find? id w.connections = some c) (act : Connection → StateM World (Transfer α)) :
    (onConnection id act).run w =
      (((act c).run w).1.1, { ((act c).run w).2 with
        connections := Dict.insert id ((act c).run w).1.2 ((act c).run w).2.connections }) := by
  simp only [onConnection, StateT.run_bind, StateT.run_get, pure_bind, hc]
  rfl

theorem run_onConnection_of_none {id : ConnectionId} {w : World}
    (hc : Dict.find? id w.connections = none) (act : Connection → StateM World (Transfer α)) :
    (onConnection id act).run w = (.error brokenConnection, w) := by
  simp only [onConnection, StateT.run_bind, StateT.run_get, pure_bind, hc]
  rfl

theorem shows_onConnection (id : ConnectionId) {act act' : Connection → StateM World (Transfer α)}
    (h : ∀ c : Connection, c.OwesRollbacks → (mirror t u).ShowsWith Transfers (act c) (act' c)) :
    (mirror t u).Shows (onConnection id act) (onConnection id act') := by
  intro w hw
  have himage : ((mirror t u).image w).connections = w.connections := rfl
  cases hc : Dict.find? id w.connections with
  | none =>
    rw [run_onConnection_of_none hc, run_onConnection_of_none (himage ▸ hc)]
    exact ⟨trivial, hw, rfl⟩
  | some c =>
    obtain ⟨howes, hfaithful, hact⟩ := h c (hw.owes _ (Dict.mem_of_find? hc)) w hw
    rw [run_onConnection hc, run_onConnection (himage ▸ hc), hact]
    refine ⟨trivial, ⟨hfaithful.impartial, ?_, hfaithful.within⟩, rfl⟩
    exact Dict.forall_mem_alter hfaithful.owes fun _ _ => howes

theorem shows_release (id : ConnectionId) :
    (mirror t u).Shows (release id) (release id) :=
  fun _ hw => ⟨trivial, ⟨hw.impartial, fun e he => hw.owes e (List.mem_filter.1 he).1, hw.within⟩,
    rfl⟩

theorem shows_settle (id : ConnectionId) :
    (mirror t u).Shows (settle id) (settle id) :=
  (shows_onConnection id fun _ hc => (Connection.shows_settle hc).bind fun d hd =>
    Mirror.showsWith_pure (a := (Except.ok (), d)) hd).bind fun _ _ => Mirror.shows_pure _

theorem shows_settleAll : (mirror t u).Shows settleAll settleAll := by
  have hloop : ∀ entries : List (ConnectionId × Connection),
      (mirror t u).Shows (entries.forM fun e => settle e.1)
        (entries.forM fun e => settle e.1) := by
    intro entries
    induction entries with
    | nil => exact Mirror.shows_pure _
    | cons e rest ih => exact (shows_settle e.1).bind fun _ _ => ih
  exact fun w hw => hloop w.connections w hw

theorem shows_checkout : (mirror t u).Shows checkout checkout := by
  refine fun w hw => ⟨trivial, ⟨hw.impartial, ?_, hw.within⟩, rfl⟩
  exact Dict.forall_mem_alter hw.owes fun _ _ text h => by cases h

/-! ### The store and the queue in memory -/

theorem shows_takeFault (call : StoreCall) :
    (mirror t u).Shows (takeFault call) (takeFault call) := by
  intro w hw
  cases call <;> exact ⟨trivial, ⟨hw.impartial, hw.owes, hw.within⟩, rfl⟩

theorem shows_askStore (call : StoreCall) :
    (mirror t u).Shows (askStore call) (askStore call) :=
  fun _ hw => ⟨trivial, ⟨hw.impartial, hw.owes, hw.within⟩, rfl⟩

theorem shows_claimConflict (call : StoreCall) :
    (mirror t u).Shows (claimConflict call) (claimConflict call) := by
  cases call with
  | insert e => exact Mirror.shows_pure _
  | _ => exact shows_askStore _

theorem shows_askFaultyStore (call : StoreCall) :
    (mirror t u).Shows (askFaultyStore call) (askFaultyStore call) := by
  refine (shows_takeFault call).bind fun fault _ => ?_
  cases fault with
  | pass => exact (shows_askStore call).bind fun _ _ => Mirror.shows_pure _
  | fail f => exact Mirror.shows_pure _
  | conflict => exact (shows_claimConflict call).bind fun _ _ => Mirror.shows_pure _

theorem shows_popItem : (mirror t u).Shows popItem popItem := by
  rintro ⟨clock, firstId, supplies, rules, lastingRules, sent, opened, connections, store, faults,
    queue, queueFaults⟩ hw
  cases queueFaults with
  | succ n => exact ⟨trivial, ⟨hw.impartial, hw.owes, hw.within⟩, rfl⟩
  | zero => cases queue <;> exact ⟨trivial, ⟨hw.impartial, hw.owes, hw.within⟩, rfl⟩

/-! ### All requests -/

theorem shows_command (route : Route) (c : Command) :
    (mirror t u).Shows (reply (.command route t c))
      (reply (.command route u c)) := by
  have hwithin : (c.statement t).Within t := fun _ => c.mem_tables_statement t
  have hsend : (mirror t u).Shows (World.send route (c.statement t))
      (World.send route (c.statement u)) := by
    rw [← c.rename_statement t u]
    cases route with
    | free =>
      have hfresh : Connection.OwesRollbacks {} := fun text h => by cases h
      exact (shows_sendNow hfresh hwithin).bind fun _ _ => Mirror.shows_pure _
    | held id => exact shows_onConnection id fun _ hd => shows_send hd hwithin
  exact hsend.bind fun _ _ => Mirror.shows_pure _

theorem shows_reply {r : Request} (hr : r.IsLocal) :
    (mirror t u).Shows (reply r) (reply r) := by
  cases r with
  | command route t' c => cases hr
  | shared c => cases hr
  | now => exact fun w hw => ⟨trivial, hw, rfl⟩
  | freshIds => exact fun w hw => ⟨trivial, ⟨hw.impartial, hw.owes, hw.within⟩, rfl⟩
  | wait millis => exact Mirror.shows_pure _
  | checkout => exact shows_checkout.bind fun _ _ => Mirror.shows_pure _
  | giveBack id => exact (shows_settle id).bind fun _ _ => shows_release id
  | discard id => exact shows_release id
  | openLevel id => exact shows_onConnection id fun _ => shows_openLevel
  | commitLevel id =>
    exact shows_onConnection id fun _ hc => shows_closeLevel hc (neutral_commitText _)
  | rollbackLevel id =>
    exact shows_onConnection id fun _ hc => shows_closeLevel hc (neutral_rollbackText _)
  | abandonLevel id =>
    exact (shows_onConnection id fun c hc =>
      Mirror.showsWith_pure (a := (Except.ok (), c.abandonLevel)) hc.abandonLevel).bind fun _ _ =>
        Mirror.shows_pure _
  | store call => exact shows_askFaultyStore call
  | pushItem item => exact fun w hw => ⟨trivial, ⟨hw.impartial, hw.owes, hw.within⟩, rfl⟩
  | popItem => exact shows_popItem
  | countItems => exact fun w hw => ⟨trivial, hw, rfl⟩
  | probe url => exact Mirror.shows_pure _

end World

/-! ## Benches -/

/-- A world, and all that a program cannot foresee. -/
structure Bench where
  world : World
  /-- What the clock says, reading after reading. -/
  instants : Nat → Instant
  /-- The supplies of identifiers. -/
  supplies : Nat → Nat → Uuid
  /-- What services answer to probes. -/
  probes : Nat → ProbeAnswer
  /-- The failures to get a connection; `none` lets one be had. -/
  refusals : Nat → Option DatabaseError

namespace Bench

/-- The bench on which the database gives these answers in this order, and then the last one for
ever. -/
def answering (b : Bench) (answers : List ServerAction) (last : ServerAction) : Bench :=
  { b with world := { b.world with rules := .inOrder answers last } }

/-- Do something in the world. -/
def onWorld (act : StateM World α) : StateM Bench α := fun b =>
  ((act.run b.world).1, { b with world := (act.run b.world).2 })

/-- Is the next connection refused? -/
def nextRefusal : StateM Bench (Option DatabaseError) := fun b =>
  (b.refusals 0, { b with refusals := fun n => b.refusals (n + 1) })

/-- Hold a connection, unless it is refused. -/
def checkout : StateM Bench (Except DatabaseError ConnectionId) := do
  match ← nextRefusal with
  | some e => pure (.error e)
  | none => do pure (.ok (← onWorld World.checkout))

/-- The reply to a request. -/
def reply : (r : Request) → StateM Bench r.Reply
  | .now => fun b => (b.instants 0, { b with instants := fun n => b.instants (n + 1) })
  | .freshIds => fun b => (b.supplies 0, { b with supplies := fun n => b.supplies (n + 1) })
  | .probe _ => fun b => (b.probes 0, { b with probes := fun n => b.probes (n + 1) })
  | .checkout => checkout
  | r => onWorld (World.reply r)

/-- Rehearse an attempt, and settle what connections owe then. -/
def rehearse (a : Attempt α) : StateM Bench (Except Failure α) := do
  let outcome ← (fun b => Program.run (fun r => (reply r).run) a.run b : StateM Bench _)
  onWorld World.settleAll
  pure outcome

/-- The bench before anything was sent. -/
def cleared (b : Bench) : Bench := { b with world := { b.world with sent := [] } }

/-- The statements that reach the database in a rehearsal of an attempt. -/
def log (b : Bench) (a : Attempt α) : List Statement :=
  ((rehearse a).run b.cleared).2.world.sent.reverse

/-- The bench of one tenant shown as that of another. -/
def mirror (t u : Tenant) : Mirror Bench where
  invariant b := (World.mirror t u).invariant b.world
  image b := { b with world := (World.mirror t u).image b.world }

theorem shows_onWorld {act act' : StateM World α}
    (h : (World.mirror t u).Shows act act') :
    (mirror t u).Shows (onWorld act) (onWorld act') := by
  intro b hb
  obtain ⟨-, hinvariant, heq⟩ := h b.world hb
  refine ⟨trivial, hinvariant, ?_⟩
  exact congrArg (fun x : α × World => (x.1, { b with world := x.2 })) heq

theorem shows_checkout : (mirror t u).Shows checkout checkout := by
  have hrefusal : (mirror t u).Shows nextRefusal nextRefusal := fun _ hb => ⟨trivial, hb, rfl⟩
  refine hrefusal.bind fun refusal _ => ?_
  cases refusal with
  | some e => exact Mirror.shows_pure _
  | none => exact (shows_onWorld World.shows_checkout).bind fun _ _ => Mirror.shows_pure _

theorem shows_reply {r : Request} (hr : r.IsLocal) :
    (mirror t u).Shows (reply r) (reply r) := by
  cases r with
  | now => exact fun _ hb => ⟨trivial, hb, rfl⟩
  | freshIds => exact fun _ hb => ⟨trivial, hb, rfl⟩
  | probe url => exact fun _ hb => ⟨trivial, hb, rfl⟩
  | checkout => exact shows_checkout
  | _ => exact shows_onWorld (World.shows_reply hr)

/-- What is rehearsed for one tenant is in the mirror what is rehearsed for the other. -/
theorem shows_rehearse {a : Tenant → Attempt α} (ha : Attempt.Uniform a) :
    (mirror t u).Shows (rehearse (a t)) (rehearse (a u)) := by
  have hrun : (mirror t u).Shows (fun b => Program.run (fun r => (reply r).run) (a t).run b)
      (fun b => Program.run (fun r => (reply r).run) (a u).run b) :=
    Program.Uniform.shows (t := t) (u := u) (fun _ => shows_reply)
      (fun route c => shows_onWorld (World.shows_command route c)) ha
  exact hrun.bind fun _ _ => (shows_onWorld World.shows_settleAll).bind fun _ _ =>
    Mirror.shows_pure _

/-! ## Logs -/

theorem run_rehearse (a : Attempt α) (b : Bench) :
    ((rehearse a).run b).2 =
      ((onWorld World.settleAll).run
        (Program.run (fun r => (reply r).run) a.run b).2).2 := rfl

/-- What becomes of the outcome has no effect on the log. -/
theorem log_bind_pure (b : Bench) (a : Attempt α) (f : α → β) :
    b.log (do pure (f (← a))) = b.log a := by
  have hrun : ∀ b : Bench,
      (Program.run (fun r => (reply r).run) (do pure (f (← a)) : Attempt β).run b).2 =
        (Program.run (fun r => (reply r).run) a.run b).2 := by
    intro b
    have hthen := Program.run_andThen (fun r => (reply r).run) a.run
      (ExceptT.bindCont fun v => (pure (f v) : Attempt β)) b
    refine (congrArg Prod.snd hthen).trans ?_
    cases (Program.run (fun r => (reply r).run) a.run b).1 <;> rfl
  rw [log, log, run_rehearse, run_rehearse, hrun]

section Logs

variable {a : Tenant → Attempt α} (ha : Attempt.Uniform a) {b : Bench}
  (hb : b.world.OwesRollbacks) (answers : List ServerAction) (last : ServerAction) (t u : Tenant)

include ha hb

/-- Both rehearsals begin in one world, which is its own image, for nothing was sent yet. -/
theorem faithful_rehearse :
    (((rehearse (a t)).run (b.answering answers last).cleared).2.world).Faithful t ∧
      (rehearse (a u)).run (b.answering answers last).cleared =
        (((rehearse (a t)).run (b.answering answers last).cleared).1,
          (mirror t u).image ((rehearse (a t)).run (b.answering answers last).cleared).2) := by
  have hstart : (mirror t u).invariant (b.answering answers last).cleared :=
    ⟨Script.impartial_inOrder answers last, hb, fun _ h => by cases h⟩
  exact (shows_rehearse ha _ hstart).2

/-- **Two tenants' logs are alike** but for the names in front of the tables. -/
theorem log_alike : (b.answering answers last).log (a u) =
    ((b.answering answers last).log (a t)).map (Statement.rename t.schema u.schema) := by
  have himage := (faithful_rehearse ha hb answers last t u).2
  rw [log, log, List.map_reverse]
  exact congrArg (fun x : Except Failure α × Bench => x.2.world.sent.reverse) himage

/-- **The tables in a tenant's log are its own.** -/
theorem within_of_mem_log {s : Statement} (hs : s ∈ (b.answering answers last).log (a t)) :
    s.Within t :=
  (faithful_rehearse ha hb answers last t t).1.within s (List.mem_reverse.1 hs)

end Logs

end Bench

end TrafficLens
