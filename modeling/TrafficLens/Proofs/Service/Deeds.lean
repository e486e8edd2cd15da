import TrafficLens.Proofs.Service.Processing

/-!
# What attempts store and announce

An endpoint is stored outside of all transactions, and the alert that announces it is stored in a
transaction. The `deeds` of an attempt are what is left of its transcript if only this is looked at:
the endpoints that it stored, and its transactions with what they committed.

Deeds are honest if each endpoint is followed by a transaction that announces it if it is committed,
and no other transaction announces an endpoint (`HonestDeeds`). Then the endpoints that are
announced are those whose next transaction was committed (`HonestDeeds.mem_announcements_iff`).
Attempts are shown to be honest along their text: one that stores nothing and announces nothing is
(`Attempt.honest_of_closes`), and so is one that first stores an endpoint and then makes the
transaction that announces it (`Attempt.honest_bind_of_stores`).
-/

namespace TrafficLens

open Attempt Ledger

/-! ## Deeds -/

/-- The endpoint that a request would store. -/
def Request.insertion? : Request → Option Endpoint
  | store (.insert e) | command _ _ (.insertEndpoint e) => some e
  | _ => none

/-- The request would store no endpoint. -/
def Request.Keeps (r : Request) : Prop := r.insertion? = none

/-- The endpoint that was stored. -/
def Event.insertion? : Event → Option Endpoint
  | ⟨.store (.insert e), .ok .inserted⟩ => some e
  | ⟨.command _ _ (.insertEndpoint e), .ok _⟩ => some e
  | _ => none

theorem Event.insertion?_of_keeps {e : Event} (h : e.request.Keeps) :
    e.insertion? = none := by
  obtain ⟨r, reply⟩ := e
  cases r with
  | store call =>
    cases call with
    | insert e => cases h
    | _ => rfl
  | command route t command =>
    cases command with
    | insertEndpoint e => cases h
    | _ => rfl
  | _ => rfl

/-- The endpoint that a command announces. -/
def Command.announced? : Command → Option Uuid
  | insertAlert a => if a.kind = .newEndpoint then some a.endpointId else none
  | _ => none

/-- The endpoints that statements have announced. -/
def announced (work : List Sent) : List Uuid :=
  work.filterMap fun s =>
    match s.reply with
    | .ok _ => s.command.announced?
    | .error _ => none

theorem announced_of_carryOut {t : Tenant} {commands : List Command} {work : List Sent}
    (h : CarryOut t commands work) : announced work = commands.filterMap Command.announced? := by
  induction h with
  | nil => rfl
  | cons hs _ ih =>
    obtain ⟨answer, rfl⟩ := hs
    rw [announced, List.filterMap_cons, List.filterMap_cons]
    dsimp only
    split <;> [exact ih; exact congrArg _ ih]

/-- A step of a call, if one looks at the endpoints that it stores and at its transactions only. -/
inductive Deed where
  | stored (endpoint : Endpoint)
  /-- A transaction is over, and has made some statements last if it was committed. -/
  | ended (outcome : Option (List Sent))

namespace Ledger

variable {c : ConnectionId} {l : Ledger}

theorem exists_closed_openLevel (l : Ledger) (reply : Except DatabaseError Unit) :
    ∃ more, (l.openLevel reply).closed = l.closed ++ more := by
  obtain ⟨_ | ⟨top, rest⟩, closed⟩ := l
  · cases reply with
    | ok _ => exact ⟨[], (List.append_nil _).symm⟩
    | error e => exact ⟨[none], rfl⟩
  · cases reply <;> exact ⟨[], (List.append_nil _).symm⟩

theorem exists_closed_undo (l : Ledger) : ∃ more, l.undo.closed = l.closed ++ more := by
  obtain ⟨_ | ⟨top, _ | ⟨next, rest⟩⟩, closed⟩ := l
  · exact ⟨[], (List.append_nil _).symm⟩
  · exact ⟨[none], rfl⟩
  · exact ⟨[], (List.append_nil _).symm⟩

theorem exists_closed_commit (l : Ledger) (reply : Except DatabaseError Unit) :
    ∃ more, (l.commit reply).closed = l.closed ++ more := by
  cases reply with
  | error e => exact exists_closed_undo l
  | ok _ =>
    obtain ⟨_ | ⟨top, _ | ⟨next, rest⟩⟩, closed⟩ := l
    · exact ⟨[], (List.append_nil _).symm⟩
    · exact ⟨[some top], rfl⟩
    · exact ⟨[], (List.append_nil _).symm⟩

theorem closed_record (l : Ledger) (s : Sent) : (l.record s).closed = l.closed := by
  rw [record]
  split <;> rfl

/-- What is over stays over. -/
theorem exists_closed_note (c : ConnectionId) (l : Ledger) (e : Event) :
    ∃ more, (note c l e).closed = l.closed ++ more := by
  by_cases hc : e.request.connection? = some c
  · obtain ⟨r, reply⟩ := e
    cases r with
    | openLevel d =>
      obtain rfl := Option.some.inj hc
      exact note_openLevel reply ▸ exists_closed_openLevel l reply
    | commitLevel d =>
      obtain rfl := Option.some.inj hc
      exact note_commitLevel reply ▸ exists_closed_commit l reply
    | rollbackLevel d | abandonLevel d =>
      obtain rfl := Option.some.inj hc
      rw [note, if_pos rfl]
      exact exists_closed_undo l
    | command route t command =>
      cases route with
      | free => cases hc
      | held d =>
        obtain rfl := Option.some.inj hc
        exact ⟨[], by rw [note, if_pos rfl, closed_record, List.append_nil]⟩
    | _ => exact ⟨[], (List.append_nil _).symm⟩
  · exact ⟨[], by rw [note_of_ne hc, List.append_nil]⟩

theorem exists_closed_after (c : ConnectionId) (l : Ledger) (es : List Event) :
    ∃ more, (after c l es).closed = l.closed ++ more := by
  induction es generalizing l with
  | nil => exact ⟨[], (List.append_nil _).symm⟩
  | cons e es ih =>
    obtain ⟨more₁, h₁⟩ := exists_closed_note c l e
    obtain ⟨more₂, h₂⟩ := ih (note c l e)
    exact ⟨more₁ ++ more₂, by rw [after_cons, h₂, h₁, List.append_assoc]⟩

/-- The deeds of a transcript. -/
def deeds (c : ConnectionId) : Ledger → List Event → List Deed
  | _, [] => []
  | l, e :: es =>
    e.insertion?.toList.map .stored ++ ((note c l e).closed.drop l.closed.length).map .ended ++
      deeds c (note c l e) es

theorem deeds_append (es₁ es₂ : List Event) :
    deeds c l (es₁ ++ es₂) = deeds c l es₁ ++ deeds c (after c l es₁) es₂ := by
  induction es₁ generalizing l with
  | nil => rfl
  | cons e es₁ ih =>
    rw [List.cons_append, deeds, deeds, ih, after_cons]
    simp only [List.append_assoc]

/-- The deeds of a transcript in which no endpoint is stored. -/
theorem deeds_of_transactions {es : List Event} {more : List (Option (List Sent))}
    (hes : ∀ e ∈ es, e.insertion? = none) (h : (after c l es).closed = l.closed ++ more) :
    deeds c l es = more.map .ended := by
  induction es generalizing l more with
  | nil =>
    obtain rfl : more = [] := by simpa using h
    rfl
  | cons e es ih =>
    obtain ⟨more₁, h₁⟩ := exists_closed_note c l e
    obtain ⟨more₂, h₂⟩ := exists_closed_after c (note c l e) es
    obtain rfl : more = more₁ ++ more₂ := by
      rw [after_cons, h₂, h₁, List.append_assoc] at h
      exact (List.append_cancel_left h).symm
    rw [deeds, ih (fun e he => hes e (List.mem_cons_of_mem _ he)) h₂, hes e List.mem_cons_self, h₁,
      List.drop_left, List.map_append]
    rfl

/-- The deeds of a transcript in which nothing is about the connection. -/
theorem deeds_of_ne {es : List Event} (h : ∀ e ∈ es, e.request.connection? ≠ some c) :
    deeds c l es = (es.filterMap Event.insertion?).map .stored := by
  induction es with
  | nil => rfl
  | cons e es ih =>
    rw [deeds, note_of_ne (h e List.mem_cons_self), List.drop_length, List.map_nil,
      List.append_nil, ih fun e he => h e (List.mem_cons_of_mem _ he), List.filterMap_cons]
    cases e.insertion? <;> rfl

end Ledger

/-! ## Honest calls -/

/-- The endpoints that are announced in committed transactions. -/
def announcements (ds : List Deed) : List Uuid :=
  ds.flatMap fun d =>
    match d with
    | .ended (some work) => announced work
    | _ => []

/-- Every endpoint that is stored is followed by a transaction, which announces it if it is
committed. No other transaction announces an endpoint. -/
inductive HonestDeeds : List Deed → Prop
  | nil : HonestDeeds []
  | ended {outcome : Option (List Sent)} {ds : List Deed}
    (h : ∀ work, outcome = some work → announced work = []) (hds : HonestDeeds ds) :
    HonestDeeds (.ended outcome :: ds)
  | stored {e : Endpoint} {outcome : Option (List Sent)} {ds : List Deed}
    (h : ∀ work, outcome = some work → announced work = [e.id]) (hds : HonestDeeds ds) :
    HonestDeeds (.stored e :: .ended outcome :: ds)

namespace HonestDeeds

theorem append {ds ds' : List Deed} (h : HonestDeeds ds) (h' : HonestDeeds ds') :
    HonestDeeds (ds ++ ds') := by
  induction h with
  | nil => exact h'
  | ended h _ ih => exact .ended h ih
  | stored h _ ih => exact .stored h ih

theorem of_transactions {outcomes : List (Option (List Sent))}
    (h : ∀ work, some work ∈ outcomes → announced work = []) :
    HonestDeeds (outcomes.map .ended) := by
  induction outcomes with
  | nil => exact .nil
  | cons outcome outcomes ih =>
    refine .ended (fun work hwork => h work ?_) (ih fun work hwork => h work ?_)
    · exact hwork ▸ List.mem_cons_self
    · exact List.mem_cons_of_mem _ hwork

theorem announcements_ended_of_silent {outcome : Option (List Sent)} {ds : List Deed}
    (h : ∀ work, outcome = some work → announced work = []) :
    announcements (.ended outcome :: ds) = announcements ds := by
  cases outcome with
  | none => rfl
  | some work => simp [announcements, h work rfl]

/-- **Who is announced**: the endpoints whose next transaction was committed. -/
theorem mem_announcements_iff {ds : List Deed} (h : HonestDeeds ds) {id : Uuid} :
    id ∈ announcements ds ↔ ∃ before e work rest,
      ds = before ++ .stored e :: .ended (some work) :: rest ∧ e.id = id := by
  induction h with
  | nil => simp [announcements]
  | @ended outcome ds h _ ih =>
    rw [announcements_ended_of_silent h, ih]
    constructor
    · rintro ⟨before, e, work, rest, rfl, hid⟩
      exact ⟨.ended outcome :: before, e, work, rest, rfl, hid⟩
    · rintro ⟨_ | ⟨d, before⟩, e, work, rest, heq, hid⟩
      · cases heq
      · exact ⟨before, e, work, rest, (List.cons.inj heq).2, hid⟩
  | @stored e outcome ds h _ ih =>
    have hmem : id ∈ announcements (.stored e :: .ended outcome :: ds) ↔
        (∃ work, outcome = some work ∧ e.id = id) ∨ id ∈ announcements ds := by
      cases outcome with
      | none => simp [announcements]
      | some work => simp [announcements, h work rfl, eq_comm]
    rw [hmem, ih]
    constructor
    · rintro (⟨work, rfl, hid⟩ | ⟨before, e', work, rest, rfl, hid⟩)
      · exact ⟨[], e, work, ds, rfl, hid⟩
      · exact ⟨.stored e :: .ended outcome :: before, e', work, rest, rfl, hid⟩
    · rintro ⟨_ | ⟨d, _ | ⟨d', before⟩⟩, e', work, rest, heq, hid⟩
      · cases heq
        exact .inl ⟨work, rfl, hid⟩
      · cases heq
      · exact .inr ⟨before, e', work, rest, (List.cons.inj (List.cons.inj heq).2).2, hid⟩

end HonestDeeds

/-! ## Attempts that are honest -/

namespace Attempt

variable {α β : Type} {c : ConnectionId} {a : Attempt α}

/-- Whatever is replied, the attempt leaves no level open, and its deeds are honest. -/
def Honest (c : ConnectionId) (a : Attempt α) : Prop :=
  ∀ ⦃es x⦄, a.Yields es x → ∀ closed, (after c ⟨[], closed⟩ es).levels = [] ∧
    HonestDeeds (deeds c ⟨[], closed⟩ es)

theorem Honest.bind {f : α → Attempt β} (ha : Honest c a) (hf : ∀ v, Honest c (f v)) :
    Honest c (a >>= f) := by
  intro es y hy closed
  obtain ⟨e, rfl, h⟩ | ⟨es₁, es₂, v, rfl, h₁, h₂⟩ := yields_bind.1 hy
  · exact ha h closed
  · obtain ⟨hlevels, hdeeds⟩ := ha h₁ closed
    rw [after_append, deeds_append]
    generalize after c ⟨[], closed⟩ es₁ = l at hlevels
    obtain ⟨levels, closed'⟩ := l
    obtain rfl : levels = [] := hlevels
    obtain ⟨hlevels₂, hdeeds₂⟩ := hf v h₂ closed'
    exact ⟨hlevels₂, hdeeds.append hdeeds₂⟩

theorem Honest.outcome (h : Honest c a) : Honest c a.outcome := by
  intro es y hy
  obtain ⟨x, -, hx⟩ := yields_outcome.1 hy
  exact h hx

/-- An attempt that stores and announces nothing is honest. -/
theorem honest_of_closes (h : Closes c a fun work => announced work = [])
    (hasks : Asks Request.Keeps a) : Honest c a := by
  intro es x hy closed
  obtain ⟨outcomes, hsilent, hafter⟩ := h hy
  refine ⟨by rw [hafter], ?_⟩
  have hes : ∀ e ∈ es, e.insertion? = none := fun e he => e.insertion?_of_keeps (hasks hy e he)
  rw [deeds_of_transactions hes (by rw [hafter])]
  exact .of_transactions hsilent

/-- The request is not about the connection, and stores nothing. -/
def Idle (c : ConnectionId) (r : Request) : Prop :=
  r.connection? ≠ some c ∧ r.Keeps

theorem honest_of_idle (h : Asks (Idle c) a) : Honest c a :=
  honest_of_closes (closes_of_asks (h.mono fun _ hr => hr.1)) (h.mono fun _ hr => hr.2)

theorem honest_pure (v : α) : Honest c (pure v : Attempt α) := honest_of_idle (asks_pure v)

end Attempt

/-! ## Looking for endpoints, and storing them -/

/-- A request that a call to the store of endpoints makes: the call itself in memory, or the command
over any free connection of the database, and waits. -/
inductive Request.Calls (call : StoreCall) (t : Tenant) (command : Command) : Request → Prop
  | memory : Calls call t command (.store call)
  | database : Calls call t command (.command .free t command)
  | wait (millis : Nat) : Calls call t command (.wait millis)

section Stores

variable {c : ConnectionId} {t : Tenant}

theorem calls_askMemory {call : StoreCall} {command : Command} :
    Asks (Request.Calls call t command) (EndpointStore.askMemory call) :=
  (asks_ask .memory).bind fun _ => asks_ofExcept _

theorem calls_retryQuery {p : RetryPolicy} {call : StoreCall} {command : Command} :
    Asks (Request.Calls call t command) (retryQuery p (send .free t command)) :=
  Asks.retryQuery (asks_send .database) .wait

theorem calls_findMatch (s : EndpointStore) (host method path : String) :
    Asks (Request.Calls (.findMatch host method path) t (.findMatch host method path))
      (s.findMatch t host method path) := by
  cases s with
  | memory => exact calls_askMemory
  | database retry => exact calls_retryQuery

theorem calls_findExact (s : EndpointStore) (host method template : String) :
    Asks (Request.Calls (.findExact host method template) t (.findExact host method template))
      (s.findExact t host method template) := by
  cases s with
  | memory => exact calls_askMemory
  | database retry => exact calls_retryQuery

theorem insertOutcome_error (f : Failure) :
    EndpointStore.insertOutcome (.error f) = pure .conflict ∨
      EndpointStore.insertOutcome (.error f) = throw f := by
  rw [EndpointStore.insertOutcome]
  split
  · exact .inl rfl
  · exact .inr rfl

theorem calls_insert (s : EndpointStore) (e : Endpoint) :
    Asks (Request.Calls (.insert e) t (.insertEndpoint e)) (s.insert t e) := by
  cases s with
  | memory => exact calls_askMemory
  | database retry =>
    refine calls_retryQuery.outcome.bind fun x => ?_
    cases x with
    | ok n => exact asks_pure _
    | error f =>
      rcases insertOutcome_error f with h | h
      · exact h ▸ asks_pure _
      · exact h ▸ asks_throw f

theorem connection?_of_calls {call : StoreCall} {command : Command} {r : Request}
    (h : r.Calls call t command) : r.connection? ≠ some c := by
  cases h <;> simp [Request.connection?]

theorem idle_findMatch (s : EndpointStore) (host method path : String) :
    Asks (Idle c) (s.findMatch t host method path) :=
  (calls_findMatch s host method path).mono fun _ h =>
    ⟨connection?_of_calls h, by cases h <;> rfl⟩

theorem idle_findExact (s : EndpointStore) (host method template : String) :
    Asks (Idle c) (s.findExact t host method template) :=
  (calls_findExact s host method template).mono fun _ h =>
    ⟨connection?_of_calls h, by cases h <;> rfl⟩

theorem idle_find (r : Resolver) (host method path : String) :
    Asks (Idle c) (r.find t host method path) :=
  (idle_findMatch r.store host method path).bind fun _ => asks_pure _

theorem asks_insert (s : EndpointStore) (e : Endpoint) :
    Asks (fun r => r.connection? ≠ some c) (s.insert t e) :=
  (calls_insert s e).mono fun _ => connection?_of_calls

/-- The endpoints that a transcript stores. -/
def insertions (es : List Event) : List Endpoint := es.filterMap Event.insertion?

theorem insertions_append (es₁ es₂ : List Event) :
    insertions (es₁ ++ es₂) = insertions es₁ ++ insertions es₂ :=
  List.filterMap_append

theorem insertions_of_asks {α : Type} {a : Attempt α} {es : List Event} {x : Except Failure α}
    (h : Asks Request.Keeps a) (hy : a.Yields es x) : insertions es = [] :=
  List.filterMap_eq_nil_iff.2 fun e he => e.insertion?_of_keeps (h hy e he)

/-- A try that failed, or a wait, stores nothing. -/
theorem insertion?_of_failed {e : Endpoint} {ev : Event}
    (h : (∃ millis, ev.request = .wait millis) ∨
      ∃ es f, (send .free t (.insertEndpoint e)).Yields es (.error f) ∧ ev ∈ es) :
    ev.insertion? = none := by
  rcases h with ⟨millis, hwait⟩ | ⟨es, f, hfail, hev⟩
  · exact ev.insertion?_of_keeps (by rw [hwait]; rfl)
  · obtain ⟨reply, rfl, hreply⟩ := yields_send.1 hfail
    obtain rfl := List.mem_singleton.1 hev
    cases reply with
    | ok n => cases hreply
    | error e => rfl

/-- An endpoint is stored if and only if the store says so. -/
theorem insertions_insert {s : EndpointStore} {e : Endpoint} {es : List Event}
    {x : Except Failure InsertOutcome} (h : (s.insert t e).Yields es x) :
    insertions es = if x = .ok .inserted then [e] else [] := by
  cases s with
  | memory =>
    obtain ⟨reply, rfl, hx⟩ := yields_askMemory.1 h
    subst hx
    rcases x with f | _ | _ <;> rfl
  | database retry =>
    obtain ⟨es₁, es₂, y, rfl, hquery, houtcome⟩ := yields_outcome_bind.1 h
    obtain ⟨before, last, rfl, hlast, hbefore⟩ := yields_retryQuery hquery
    obtain ⟨reply, rfl, rfl⟩ := yields_send.1 hlast
    have hnone : insertions before = [] :=
      List.filterMap_eq_nil_iff.2 fun ev hev => insertion?_of_failed (hbefore ev hev)
    rw [insertions_append, insertions_append, hnone]
    cases reply with
    | ok n =>
      obtain ⟨rfl, rfl⟩ := yields_pure.1 houtcome
      rfl
    | error err =>
      rcases insertOutcome_error (.database err) with h | h
      · obtain ⟨rfl, rfl⟩ := yields_pure.1 (h ▸ houtcome)
        rfl
      · obtain ⟨rfl, rfl⟩ := yields_throw.1 (h ▸ houtcome)
        rfl

end Stores

namespace Attempt

variable {α β : Type} {c : ConnectionId} {t : Tenant} {a : Attempt α} {e : Endpoint}

/-- The attempt stores the endpoint that `new?` finds in its result, if any, and nothing else. Such
an endpoint has no document yet. -/
def Stores (new? : α → Option Endpoint) (a : Attempt α) : Prop :=
  ∀ ⦃es x⦄, a.Yields es x → insertions es = (x.toOption.bind new?).toList ∧
    ∀ e, x.toOption.bind new? = some e → e.documentName = none

theorem stores_pure {new? : α → Option Endpoint} {v : α} (h : new? v = none) :
    Stores new? (pure v) := by
  rintro es x ⟨rfl, rfl⟩
  simp [insertions, Except.toOption, h]

theorem stores_bind {new? : β → Option Endpoint} {f : α → Attempt β}
    (ha : Asks Request.Keeps a) (hf : ∀ v, Stores new? (f v)) :
    Stores new? (a >>= f) := by
  intro es y hy
  obtain ⟨e, rfl, h⟩ | ⟨es₁, es₂, v, rfl, h₁, h₂⟩ := yields_bind.1 hy
  · rw [insertions_of_asks ha h]
    simp [Except.toOption]
  · rw [insertions_append, insertions_of_asks ha h₁, List.nil_append]
    exact hf v h₂

theorem Stores.outcome {new? : α → Option Endpoint} (h : Stores new? a) :
    Stores (fun x => x.toOption.bind new?) a.outcome := by
  intro es y hy
  obtain ⟨x, rfl, hx⟩ := yields_outcome.1 hy
  exact h hx

/-- The attempt makes one transaction and stores no endpoint. If the transaction is committed then
it announces the given endpoint, and no other. -/
def Announces (c : ConnectionId) (e : Endpoint) (a : Attempt α) : Prop :=
  ∀ ⦃es x⦄, a.Yields es x → ∃ outcome, (∀ work, outcome = some work → announced work = [e.id]) ∧
    ∀ closed, after c ⟨[], closed⟩ es = ⟨[], closed ++ [outcome]⟩ ∧
      deeds c ⟨[], closed⟩ es = [.ended outcome]

theorem announces_transaction {W : α → List Sent → Prop} (h : Adds c a W)
    (hasks : Asks Request.Keeps a)
    (hW : ∀ v work, W v work → announced work = [e.id]) : Announces c e (transaction c a) := by
  intro es x hy
  have hes : ∀ ev ∈ es, ev.insertion? = none := fun ev hev =>
    ev.insertion?_of_keeps (hasks.transaction (by rfl) (by rfl) (by rfl) hy ev hev)
  rcases after_transaction h hy with ⟨v, work, -, hwork, -, hafter⟩ | ⟨f, -, hafter⟩
  · refine ⟨some work, by simpa using hW v work hwork, fun closed => ⟨hafter closed, ?_⟩⟩
    rw [deeds_of_transactions hes (by rw [hafter])]
    rfl
  · refine ⟨none, by simp, fun closed => ⟨hafter closed, ?_⟩⟩
    rw [deeds_of_transactions hes (by rw [hafter])]
    rfl

theorem Announces.outcome (h : Announces c e a) : Announces c e a.outcome := by
  intro es y hy
  obtain ⟨x, -, hx⟩ := yields_outcome.1 hy
  exact h hx

theorem deeds_of_idle {l : Ledger} {es : List Event} {x : Except Failure α} (h : Asks (Idle c) a)
    (hy : a.Yields es x) : after c l es = l ∧ deeds c l es = [] := by
  have hne : ∀ ev ∈ es, ev.request.connection? ≠ some c := fun ev hev => (h hy ev hev).1
  have hnone : insertions es = [] := insertions_of_asks (h.mono fun _ hr => hr.2) hy
  exact ⟨after_of_ne hne, by rw [deeds_of_ne hne, ← insertions, hnone]; rfl⟩

theorem Announces.bind_idle {f : α → Attempt β} (h : Announces c e a)
    (hf : ∀ v, Asks (Idle c) (f v)) : Announces c e (a >>= f) := by
  intro es y hy
  obtain ⟨f, rfl, h'⟩ | ⟨es₁, es₂, v, rfl, h₁, h₂⟩ := yields_bind.1 hy
  · exact h h'
  · obtain ⟨outcome, hannounced, hdeeds⟩ := h h₁
    refine ⟨outcome, hannounced, fun closed => ?_⟩
    obtain ⟨hafter, hdeeds⟩ := hdeeds closed
    rw [after_append, deeds_append, hafter, hdeeds]
    obtain ⟨hafter₂, hdeeds₂⟩ := deeds_of_idle (l := ⟨[], closed ++ [outcome]⟩) (hf v) h₂
    exact ⟨hafter₂, by rw [hdeeds₂]; rfl⟩

theorem idle_freshIds : Asks (Idle c) freshIds :=
  asks_ask ⟨by simp [Request.connection?], rfl⟩

theorem announces_freshIds_bind {f : (Nat → Uuid) → Attempt β} (hf : ∀ ids, Announces c e (f ids)) :
    Announces c e (freshIds >>= f) := by
  intro es y hy
  obtain ⟨_, -, h⟩ | ⟨es₁, es₂, ids, rfl, h₁, h₂⟩ := yields_bind.1 hy
  · obtain ⟨ids, -, hids⟩ := yields_freshIds.1 h
    cases hids
  · obtain ⟨outcome, hannounced, hdeeds⟩ := hf ids h₂
    refine ⟨outcome, hannounced, fun closed => ?_⟩
    obtain ⟨hafter₁, hdeeds₁⟩ := deeds_of_idle (l := ⟨[], closed⟩) idle_freshIds h₁
    rw [after_append, deeds_append, hafter₁, hdeeds₁]
    exact hdeeds closed

/-- An attempt is honest if it first stores an endpoint, or none, and then makes the transaction
that announces it. -/
theorem honest_bind_of_stores {new? : α → Option Endpoint} {f : α → Attempt β}
    (ha : Stores new? a) (hne : Asks (fun r => r.connection? ≠ some c) a)
    (hnone : ∀ v, new? v = none → Honest c (f v))
    (hsome : ∀ v e, new? v = some e → e.documentName = none → Announces c e (f v)) :
    Honest c (a >>= f) := by
  intro es y hy closed
  obtain ⟨e', rfl, h⟩ | ⟨es₁, es₂, v, rfl, h₁, h₂⟩ := yields_bind.1 hy
  · rw [after_of_ne (hne h), deeds_of_ne (hne h), ← insertions, (ha h).1]
    exact ⟨rfl, .nil⟩
  · obtain ⟨hstored, hdocument⟩ := ha h₁
    rw [after_append, deeds_append, after_of_ne (hne h₁), deeds_of_ne (hne h₁), ← insertions,
      hstored]
    cases hv : new? v with
    | none =>
      obtain ⟨hlevels, hdeeds⟩ := hnone v hv h₂ closed
      exact ⟨hlevels, by simpa [Except.toOption, hv] using hdeeds⟩
    | some e =>
      have hnew : (Except.ok v : Except Failure α).toOption.bind new? = some e := hv
      obtain ⟨outcome, hannounced, hdeeds⟩ := hsome v e hv (hdocument e hnew) h₂
      obtain ⟨hafter, hdeeds⟩ := hdeeds closed
      rw [hafter, hdeeds, hnew]
      exact ⟨rfl, .stored hannounced .nil⟩

end Attempt

end TrafficLens
