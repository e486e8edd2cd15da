import Mathlib.Data.List.Chain
import TrafficLens.Proofs.Program.Clerk
import TrafficLens.Proofs.Service.Breakage
import TrafficLens.Service.Worker

/-!
# Connections of a worker

A worker keeps its connection from one turn to the next, and it judges the connection by the outcome
of the turn alone. So a connection that is lost is closed and never used again if the outcome says so,
and `replaced_unless_masked` says when it does not, for all that databases can reply. If a statement
found the connection lost and the worker keeps it all the same, then a later statement of the turn was
answered, or the statement was the rollback of an analysis that failed for another reason. The latter
does happen, and then the next turn begins on a connection that is lost
(`exists_broken_connection_reused`).

Processing a trace is about no connection but the one that it is given (`Service.stays_process`). The
ways of a turn (`Service.WorkYields`) say which connection that is and what is left of it, and a
`Shift` is a list of turns in which each begins with what the one before left.
-/

namespace TrafficLens

open Attempt

variable {α β : Type} {c : ConnectionId}

theorem pure_bind_next (v : β) (next : β → Attempt α) : (pure v >>= next) = next v := rfl

theorem yields_ask_bind {r : Request} {next : r.Reply → Attempt α} {es : List Event}
    {x : Except Failure α} (h : (ask r >>= next).Yields es x) :
    ∃ reply rest, es = ⟨r, reply⟩ :: rest ∧ (next reply).Yields rest x := by
  obtain ⟨f, -, hask⟩ | ⟨_, rest, reply, rfl, hask, hrest⟩ := yields_bind.1 h
  · obtain ⟨_, -, hfailed⟩ := yields_ask.1 hask
    cases hfailed
  · obtain ⟨_, rfl, hreply⟩ := yields_ask.1 hask
    obtain rfl := Except.ok.inj hreply
    exact ⟨_, rest, rfl, hrest⟩

/-! ## What is sent while a trace is processed -/

/-- The request is about no other connection. -/
def Request.Stays (c : ConnectionId) (r : Request) : Prop := ∀ d, r.connection? = some d → d = c

theorem stays_held {r : Request} (h : r.connection? = some c) : r.Stays c :=
  fun _ hd => Option.some.inj (hd.symm.trans h)

theorem stays_free {r : Request} (h : r.connection? = none) : r.Stays c := by
  intro d hd
  rw [h] at hd
  cases hd

theorem stays_send {t : Tenant} {command : Command} :
    Asks (Request.Stays c) (send (.held c) t command) :=
  asks_send (stays_held rfl)

theorem stays_retryStep {p : RetryPolicy} {a : Attempt α} (h : Asks (Request.Stays c) a) :
    Asks (Request.Stays c) (retryStep p c a) :=
  Asks.retryStep (stays_held rfl) (stays_held rfl) (stays_held rfl) (fun _ => stays_free rfl) h

theorem Resolver.stays_resolve (r : Resolver) (t : Tenant) (trace : Trace) :
    Asks (Request.Stays c) (r.resolve t trace) :=
  fun _ _ hy e he d hd => (asks_resolve (c := d) r t trace hy e he hd).elim

namespace Service

variable (s : Service) (c : ConnectionId) {t : Tenant}

theorem stays_step (command : Command) : Asks (Request.Stays c) (s.step c t command) :=
  stays_retryStep (stays_send.bind fun _ => asks_pure ())

theorem stays_upsertFields (fields : List Field) :
    Asks (Request.Stays c) (upsertFields (.held c) t fields) := by
  induction fields with
  | nil => exact asks_pure ()
  | cons f fields ih => exact stays_send.bind fun _ => ih

theorem stays_insertAlerts (alerts : List Alert) :
    Asks (Request.Stays c) (insertAlerts (.held c) t alerts) := by
  induction alerts with
  | nil => exact asks_pure 0
  | cons a alerts ih => exact stays_send.bind fun _ => ih.bind fun _ => asks_pure _

theorem stays_loadUploaded (e : Endpoint) : Asks (Request.Stays c) (loadUploaded c t e) := by
  unfold loadUploaded
  cases e.documentName with
  | none => exact asks_pure none
  | some name =>
    by_cases huploaded : e.hasUploadedDocument
    · simp only [huploaded]
      exact stays_send
    · simp only [huploaded]
      exact asks_pure none

theorem stays_analyze (endpoint : Endpoint) (trace : Trace) (isNew : Bool) (write : TraceWrite) :
    Asks (Request.Stays c) (s.analyze c t endpoint trace isNew write) := by
  have hids : Asks (Request.Stays c) freshIds := asks_ask (stays_free rfl)
  exact (stays_loadUploaded c _).bind fun _ =>
    Asks.transaction (stays_held rfl) (stays_held rfl) (stays_held rfl) <|
      (s.stays_step c _).bind fun _ => stays_send.bind fun _ => hids.bind fun _ => hids.bind fun _ =>
        Asks.bind ((s.stays_step c _).bind fun _ =>
          (stays_retryStep (stays_upsertFields c _)).bind_of_isTrue () fun _ =>
            (stays_retryStep (stays_insertAlerts c _)).bind_of_isTrue 0 fun n =>
              (s.stays_step c _).bind fun _ => asks_pure n) fun _ => asks_pure _

/-- Processing a trace on a connection is about no other one. -/
theorem stays_process (trace : Trace) : Asks (Request.Stays c) (s.process c t trace) := by
  refine (s.resolver.stays_resolve t _).bind fun x => ?_
  rcases x with ⟨endpoint, isNew⟩ | _ | _
  · exact (s.stays_analyze c endpoint _ isNew .insert).bind fun _ => asks_pure _
  · exact asks_pure _
  · exact (s.stays_step c _).bind fun _ => asks_pure _

/-! ## The ways of a turn -/

/-- How a worker comes to a connection: it holds one, or it asks for one. -/
inductive Acquires : Option ConnectionId → ConnectionId → List Event → Prop
  | held (c : ConnectionId) : Acquires (some c) c []
  | fresh (c : ConnectionId) : Acquires none c [⟨.checkout, Except.ok c⟩]

/-- The ways in which a worker takes its turn at a trace. -/
inductive WorkYields (s : Service) (item : QueuedTrace) : Option ConnectionId → List Event →
    Except Failure Disposition → Option ConnectionId → Prop
  /-- The trace belongs to no tenant. -/
  | refused {held : Option ConnectionId} {f : Failure} (hf : f.losesConnection = false) :
    WorkYields s item held [] (.error f) held
  /-- There is no connection. -/
  | unconnected (e : DatabaseError) :
    WorkYields s item none [⟨.checkout, Except.error e⟩] (.error (.database e)) none
  /-- The trace was processed, and the worker keeps the connection. -/
  | kept {held : Option ConnectionId} {c : ConnectionId} {acquiring inside : List Event}
    {t : Tenant} {x : Except Failure Disposition} (hacquires : Acquires held c acquiring)
    (h : (s.process c t item.trace).Yields inside x) (hx : HoldsConnection x) :
    WorkYields s item held (acquiring ++ inside) x (some c)
  /-- The trace was processed, and the worker closes the connection. -/
  | closed {held : Option ConnectionId} {c : ConnectionId} {acquiring inside : List Event}
    {t : Tenant} {x : Except Failure Disposition} (hacquires : Acquires held c acquiring)
    (h : (s.process c t item.trace).Yields inside x) (hx : ¬ HoldsConnection x) :
    WorkYields s item held (acquiring ++ (inside ++ [⟨.discard c, ()⟩])) x none

/-- Process a trace on a connection, and keep the connection unless it is lost. -/
def workOn (s : Service) (c : ConnectionId) (t : Tenant) (trace : Trace) :
    Attempt (Except Failure Disposition × Option ConnectionId) := do
  match ← (s.process c t trace).outcome with
  | .ok d => pure (.ok d, some c)
  | .error f =>
    if f.losesConnection then
      Attempt.ask (.discard c)
      pure (.error f, none)
    else pure (.error f, some c)

theorem workYields_workOn {s : Service} {item : QueuedTrace} {held : Option ConnectionId}
    {c : ConnectionId} {acquiring es : List Event} {t : Tenant}
    {y : Except Failure (Except Failure Disposition × Option ConnectionId)}
    (hacquires : Acquires held c acquiring) (hy : (s.workOn c t item.trace).Yields es y) :
    ∃ x left, y = .ok (x, left) ∧ WorkYields s item held (acquiring ++ es) x left := by
  obtain ⟨inside, rest, x, rfl, hprocess, hrest⟩ := yields_outcome_bind.1 hy
  rcases x with f | d
  · dsimp only at hrest
    split at hrest
    · next hlost =>
      obtain ⟨⟨⟩, _, rfl, hpure⟩ := yields_ask_bind hrest
      obtain ⟨rfl, rfl⟩ := yields_pure.1 hpure
      exact ⟨_, _, rfl, .closed hacquires hprocess (by simp [holdsConnection_error, hlost])⟩
    · next hkept =>
      obtain ⟨rfl, rfl⟩ := yields_pure.1 hrest
      have hholds : HoldsConnection (.error f : Except Failure Disposition) :=
        holdsConnection_error.2 (by simpa using hkept)
      exact ⟨_, _, rfl, by simpa using WorkYields.kept hacquires hprocess hholds⟩
  · obtain ⟨rfl, rfl⟩ := yields_pure.1 hrest
    exact ⟨_, _, rfl, by simpa using WorkYields.kept hacquires hprocess (holdsConnection_ok d)⟩

theorem losesConnection_of_tenantOf {s : Service} {routing : Routing} {f : Failure}
    (h : s.tenantOf routing = .error f) : f.losesConnection = false := by
  unfold tenantOf Tenant.ofRouting Tenant.ofSchema at h
  split at h
  · cases h
  · obtain rfl := Except.error.inj h
    rfl

theorem work_some {s : Service} {item : QueuedTrace} {t : Tenant} (c : ConnectionId)
    (h : s.tenantOf item.routing = .ok t) :
    s.work (some c) item = s.workOn c t item.trace := by
  unfold work
  rw [h]
  exact pure_bind_next _ _

theorem work_none {s : Service} {item : QueuedTrace} {t : Tenant}
    (h : s.tenantOf item.routing = .ok t) :
    s.work none item = ask .checkout >>= fun (reply : Except DatabaseError ConnectionId) =>
      match reply with
      | .error e => pure (.error (.database e), none)
      | .ok c => s.workOn c t item.trace := by
  unfold work
  rw [h]
  rfl

/-- A turn always comes to an end, in one of the ways. -/
theorem workYields_of_work {s : Service} {item : QueuedTrace} {held : Option ConnectionId}
    {es : List Event} {y : Except Failure (Except Failure Disposition × Option ConnectionId)}
    (hy : (s.work held item).Yields es y) :
    ∃ x left, y = .ok (x, left) ∧ WorkYields s item held es x left := by
  cases htenant : s.tenantOf item.routing with
  | error f =>
    unfold work at hy
    rw [htenant] at hy
    obtain ⟨rfl, rfl⟩ := yields_pure.1 hy
    exact ⟨_, _, rfl, .refused (losesConnection_of_tenantOf htenant)⟩
  | ok t =>
    cases held with
    | some c =>
      rw [work_some c htenant] at hy
      exact workYields_workOn (.held c) hy
    | none =>
      rw [work_none htenant] at hy
      obtain ⟨reply, rest, rfl, hrest⟩ := yields_ask_bind hy
      rcases reply with e | c
      · obtain ⟨rfl, rfl⟩ := yields_pure.1 hrest
        exact ⟨_, _, rfl, .unconnected e⟩
      · exact workYields_workOn (.fresh c) hrest

end Service

/-! ## What is left of a turn -/

/-- The connection that a checkout answered. -/
def Event.checkedOut? : Event → Option ConnectionId
  | ⟨.checkout, .ok c⟩ => some c
  | _ => none

/-- The connection that a request closes. -/
def Request.closed? : Request → Option ConnectionId
  | discard c => some c
  | _ => none

/-- The connection of a turn: the one that the worker held, or else the one that was checked out. -/
def acquired? (held : Option ConnectionId) (es : List Event) : Option ConnectionId :=
  held.or (es.head?.bind Event.checkedOut?)

namespace Service

section Acquires

variable {held : Option ConnectionId} {acquiring : List Event}

theorem Acquires.acquired? (h : Acquires held c acquiring) (inside : List Event) :
    acquired? held (acquiring ++ inside) = some c := by
  cases h <;> rfl

/-- Nothing is sent over a connection before there is one. -/
theorem Acquires.connection?_eq_none (h : Acquires held c acquiring) :
    ∀ e ∈ acquiring, e.request.connection? = none := by
  cases h <;> simp [Request.connection?]

end Acquires

namespace WorkYields

variable {s : Service} {item : QueuedTrace} {held left : Option ConnectionId} {es : List Event}
  {x : Except Failure Disposition}

/-- The connection is kept exactly if the outcome does not say that it is lost. -/
theorem left_eq_iff (h : WorkYields s item held es x left) (hc : acquired? held es = some c) :
    left = some c ↔ HoldsConnection x := by
  cases h with
  | refused hf =>
    obtain rfl : held = some c := by simpa [acquired?] using hc
    exact iff_of_true rfl (holdsConnection_error.2 hf)
  | unconnected e => cases hc
  | kept hacquires _ hx => exact iff_of_true ((hacquires.acquired? _).symm.trans hc) hx
  | closed _ _ hx => exact iff_of_false nofun hx

/-- A turn is about its connection only. -/
theorem acquired?_of_mem (h : WorkYields s item held es x left) {e : Event} (he : e ∈ es)
    (hc : e.request.connection? = some c) : acquired? held es = some c := by
  cases h with
  | refused _ => cases he
  | unconnected _ =>
    obtain rfl := List.mem_singleton.1 he
    cases hc
  | kept hacquires hprocess _ =>
    rcases List.mem_append.1 he with he | he
    · simp [hacquires.connection?_eq_none e he] at hc
    · obtain rfl := s.stays_process _ _ hprocess e he c hc
      exact hacquires.acquired? _
  | closed hacquires hprocess _ =>
    rcases List.mem_append.1 he with he | he
    · simp [hacquires.connection?_eq_none e he] at hc
    rcases List.mem_append.1 he with he | he
    · obtain rfl := s.stays_process _ _ hprocess e he c hc
      exact hacquires.acquired? _
    · obtain rfl := List.mem_singleton.1 he
      obtain rfl := Option.some.inj hc
      exact hacquires.acquired? _

/-- What is left is the connection of the turn. -/
theorem acquired?_of_left (h : WorkYields s item held es x left) (hc : left = some c) :
    acquired? held es = some c := by
  cases h with
  | refused _ => simp [acquired?, hc]
  | unconnected _ => cases hc
  | kept hacquires _ _ => exact hc ▸ hacquires.acquired? _
  | closed _ _ _ => cases hc

/-- A connection that is not left is closed. -/
theorem exists_closed (h : WorkYields s item held es x left) (hc : acquired? held es = some c)
    (hleft : left ≠ some c) : ∃ e ∈ es, e.request.closed? = some c := by
  cases h with
  | refused _ =>
    obtain rfl : held = some c := by simpa [acquired?] using hc
    exact absurd rfl hleft
  | unconnected _ => cases hc
  | kept hacquires _ _ => exact absurd ((hacquires.acquired? _).symm.trans hc) hleft
  | @closed _ _ acquiring inside _ _ hacquires _ _ =>
    refine ⟨⟨.discard c, ()⟩, ?_, rfl⟩
    obtain rfl := Option.some.inj ((hacquires.acquired? _).symm.trans hc)
    simp

/-- If the connection broke and is left then it broke under a rollback whose failure is hidden. -/
theorem masked (h : WorkYields s item held es x left) {before after : List Event} {e : Event}
    (hes : es = before ++ e :: after) (hbreaks : Breaks c e after) (hleft : left = some c) :
    Masked c e after x := by
  cases h with
  | refused _ => simp at hes
  | unconnected _ => cases hleft
  | kept hacquires hprocess hx =>
    obtain rfl := Option.some.inj hleft
    rcases append_cons_eq_append hes.symm with ⟨_, rfl, -⟩ | ⟨_, -, rfl⟩
    · have hnone := hacquires.connection?_eq_none e (by simp)
      simp [hbreaks.1.1.connection?] at hnone
    · exact s.discloses_process _ _ hprocess hbreaks hx
  | closed _ _ _ => cases hleft

end WorkYields

end Service

/-! ## Turns of a worker -/

/-- What a worker did with a trace from the queue, and what came of it. -/
structure Turn where
  item : QueuedTrace
  /-- The connection that the worker held before. -/
  held : Option ConnectionId
  events : List Event
  result : Except Failure Disposition
  /-- The connection that the worker held after. -/
  left : Option ConnectionId

/-- The connection for the trace. -/
def Turn.connection? (u : Turn) : Option ConnectionId := acquired? u.held u.events

/-- The turns of a worker, one after another. Each begins with the connection that the one before has
left. -/
structure Service.Shift (s : Service) (turns : List Turn) : Prop where
  works : ∀ u ∈ turns, (s.work u.held u.item).Yields u.events (.ok (u.result, u.left))
  keeps : turns.IsChain fun u v => v.held = u.left

/-- No checkout answers a connection that was closed before. -/
def ClosedForGood (es : List Event) : Prop :=
  es.Pairwise fun e e' => ∀ c ∈ e'.checkedOut?, e.request.closed? ≠ some c

instance (es : List Event) : Decidable (ClosedForGood es) :=
  inferInstanceAs (Decidable (es.Pairwise _))

namespace Service.Shift

variable {s : Service} {before after turns : List Turn} {u : Turn}

theorem workYields (h : s.Shift turns) (hu : u ∈ turns) :
    WorkYields s u.item u.held u.events u.result u.left := by
  obtain ⟨x, left, hx, hways⟩ := workYields_of_work (h.works u hu)
  obtain ⟨rfl, rfl⟩ := Prod.mk.inj (Except.ok.inj hx)
  exact hways

theorem of_append (h : s.Shift (before ++ after)) : s.Shift after where
  works u hu := h.works u (List.mem_append_right before hu)
  keeps := (List.isChain_append.1 h.keeps).2.1

theorem tail (h : s.Shift (u :: turns)) : s.Shift turns where
  works v hv := h.works v (List.mem_cons_of_mem u hv)
  keeps := h.keeps.tail

/-- The next turn begins with the connection that was left. -/
theorem held_eq (h : s.Shift (u :: turns)) : ∀ v ∈ turns.head?, v.held = u.left :=
  (List.isChain_cons.1 h.keeps).1

/-- A worker that neither holds a connection nor gets it again does not work on it. -/
theorem connection?_ne (h : s.Shift turns) (hheld : ∀ v ∈ turns.head?, v.held ≠ some c)
    (hfresh : ∀ v ∈ turns, ∀ e ∈ v.events, e.checkedOut? ≠ some c) :
    ∀ v ∈ turns, v.connection? ≠ some c := by
  induction turns with
  | nil => exact fun v hv => absurd hv List.not_mem_nil
  | cons u turns ih =>
    obtain ⟨hfreshu, hfresh⟩ := List.forall_mem_cons.1 hfresh
    have hu : u.connection? ≠ some c := by
      intro hc
      rcases Option.or_eq_some_iff.1 hc with hc | ⟨-, hc⟩
      · exact hheld u rfl hc
      · obtain ⟨e, he, hcheckout⟩ := Option.bind_eq_some_iff.1 hc
        exact hfreshu e (List.mem_of_head? he) hcheckout
    have hleft : u.left ≠ some c :=
      fun hleft => hu ((h.workYields List.mem_cons_self).acquired?_of_left hleft)
    exact List.forall_mem_cons.2 ⟨hu, ih h.tail (fun v hv => h.held_eq v hv ▸ hleft) hfresh⟩

/-- After a turn that does not leave its connection, nothing is sent over it. -/
theorem not_sent (h : s.Shift (before ++ u :: after))
    (hpool : ClosedForGood ((before ++ u :: after).flatMap Turn.events))
    (hc : u.connection? = some c) (hleft : u.left ≠ some c) :
    ∀ v ∈ after, ∀ e ∈ v.events, e.request.connection? ≠ some c := by
  have hafter := h.of_append
  obtain ⟨x, hx, hclosed⟩ := (hafter.workYields List.mem_cons_self).exists_closed hc hleft
  have hfresh : ∀ v ∈ after, ∀ e ∈ v.events, e.checkedOut? ≠ some c := by
    intro v hv e he hcheckout
    rw [List.flatMap_append, List.flatMap_cons] at hpool
    have hpair := (List.pairwise_append.1 (List.pairwise_append.1 hpool).2.1).2.2 x hx e
      (List.mem_flatMap.2 ⟨v, hv, he⟩)
    exact hpair c hcheckout hclosed
  intro v hv e he hconnection
  have hv' := hafter.tail.workYields hv
  exact hafter.tail.connection?_ne (fun v hv => hafter.held_eq v hv ▸ hleft) hfresh v hv
    (hv'.acquired?_of_mem he hconnection)

end Service.Shift

/-- **When a worker replaces its connection.** The connection of a turn is kept exactly if the outcome
does not say that it is lost, and one that is kept is that of the next turn, which sends nothing over
another. If a statement of a turn found the connection lost then no later turn sends anything over
it, but for two cases: the connection answered a later statement of the turn, or the statement was a
last rollback and the turn failed with something else. This is so if the connections that are checked
out were not closed before. -/
theorem Service.replaced_unless_masked {s : Service} {turns before after : List Turn} {u : Turn}
    (h : s.Shift turns) (hpool : ClosedForGood (turns.flatMap Turn.events))
    (hturns : turns = before ++ u :: after) (hc : u.connection? = some c) :
    (u.left = some c ↔ HoldsConnection u.result) ∧
      (u.left = some c → ∀ v ∈ after.head?, v.connection? = some c ∧
        ∀ e ∈ v.events, ∀ d, e.request.connection? = some d → d = c) ∧
      ∀ es x es', u.events = es ++ x :: es' → x.Loses c →
        Masked c x es' u.result ∨ (∃ y ∈ es', y.request.StatementOn c ∧ ¬ y.Loses c) ∨
          ∀ v ∈ after, ∀ e ∈ v.events, e.request.connection? ≠ some c := by
  subst hturns
  have hu := h.of_append.workYields List.mem_cons_self
  refine ⟨hu.left_eq_iff hc, fun hleft v hv => ?_, fun es x es' hes hx => ?_⟩
  · have hheld : v.held = some c := (h.of_append.held_eq v hv).trans hleft
    have hconnection : v.connection? = some c := by simp [Turn.connection?, acquired?, hheld]
    refine ⟨hconnection, fun e he d hd => ?_⟩
    have hd := (h.of_append.tail.workYields (List.mem_of_head? hv)).acquired?_of_mem he hd
    exact Option.some.inj (hd.symm.trans hconnection)
  · by_cases hleft : u.left = some c
    · by_cases hanswered : ∃ y ∈ es', y.request.StatementOn c ∧ ¬ y.Loses c
      · exact .inr (.inl hanswered)
      · have hbreaks : Breaks c x es' :=
          ⟨hx, fun y hy hon => not_not.1 fun hnot => hanswered ⟨y, hy, hon, hnot⟩⟩
        exact .inl (hu.masked hes hbreaks hleft)
    · exact .inr (.inr (h.not_sent hpool hc hleft))

namespace Turn

/-- A trace in the queue. -/
def usersItem : QueuedTrace :=
  { trace := .bare (.ofNat 1) ⟨0, 0⟩ "api.local" "GET" "/users" 200 }

/-- A turn at the trace that fails, with somebody who replies. -/
def attended (k : Clerk) (held left : Option ConnectionId) (e : DatabaseError) : Turn where
  item := usersItem
  held := held
  events := k.transcript (Service.plain.work held usersItem)
  result := .error (.database e)
  left := left

/-- The fields are refused, and then the connection breaks under the rollback. -/
def first : Turn :=
  attended { plan := List.replicate 5 none ++ [some (.server (some "53100") ""), some (.broken "")] }
    none (some 0) (.server (some "53100") "")

/-- The connection is still broken. -/
def second : Turn := attended { plan := [some (.broken "")] } (some 0) none (.broken "")

/-- There is no other connection. -/
def third : Turn := attended { plan := [some .poolTimedOut] } none none .poolTimedOut

theorem yields_attended {k : Clerk} {held left : Option ConnectionId} {e : DatabaseError}
    (h : (k.attend (Service.plain.work held usersItem)).1 = .ok (.error (.database e), left)) :
    (Service.plain.work held usersItem).Yields (attended k held left e).events
      (.ok (.error (.database e), left)) :=
  h ▸ k.yields_transcript _

theorem shift_broken : Service.plain.Shift [first, second, third] where
  works := by
    simp only [List.forall_mem_cons]
    exact ⟨yields_attended (by decide +kernel), yields_attended (by decide +kernel),
      yields_attended (by decide +kernel), List.forall_mem_nil _⟩
  keeps := by simp [first, second, third, attended]

end Turn

open Turn in
/-- The connection breaks under the rollback of the first turn. The failure of that turn is another
one, so the connection is kept for the second. -/
theorem Service.replaced_unless_masked_first :
    Service.plain.Shift [first, second, third] ∧
      ClosedForGood ([first, second, third].flatMap Turn.events) ∧
      first.connection? = some 0 ∧ (∃ x ∈ first.events, x.Loses 0) ∧
      second.connection? = some 0 ∧
      ∀ es x es', first.events = es ++ x :: es' → x.Loses 0 → Masked 0 x es' first.result := by
  have hpool : ClosedForGood ([first, second, third].flatMap Turn.events) := by decide +kernel
  have hconnection : first.connection? = some 0 := by decide +kernel
  have hturns : [first, second, third] = [] ++ first :: [second, third] := rfl
  obtain ⟨-, hnext, hlost⟩ :=
    Service.replaced_unless_masked shift_broken hpool hturns hconnection
  refine ⟨shift_broken, hpool, hconnection, by decide +kernel, (hnext rfl second rfl).1, ?_⟩
  intro es x es' hes hx
  -- nothing is lost before the last request of the turn
  have hlength : first.events.length = 10 := by decide +kernel
  have hbefore : ∀ i < 9, ∀ e ∈ first.events[i]?, ¬ e.Loses 0 := by decide +kernel
  obtain rfl : es' = [] := by
    have hx' : ¬ es.length < 9 := fun hi => hbefore es.length hi x (by simp [hes]) hx
    rw [hes] at hlength
    simp only [List.length_append, List.length_cons] at hlength
    exact List.length_eq_zero_iff.1 (by omega)
  rcases hlost es x [] hes hx with hmasked | ⟨y, hy, -⟩ | hnever
  · exact hmasked
  · cases hy
  · have hsent : ∃ e ∈ second.events, e.request.connection? = some 0 := by decide +kernel
    obtain ⟨e, he, hc⟩ := hsent
    exact (hnever second (by simp) e he hc).elim

open Turn in
/-- A statement finds a connection lost, and a statement of the next turn is sent over it. -/
theorem exists_broken_connection_reused :
    Service.plain.Shift [first, second, third] ∧
      ClosedForGood ([first, second, third].flatMap Turn.events) ∧
      (∃ x ∈ first.events, x.Loses 0) ∧ ∃ e ∈ second.events, e.request.StatementOn 0 :=
  ⟨shift_broken, by decide +kernel, by decide +kernel, by decide +kernel⟩

end TrafficLens
