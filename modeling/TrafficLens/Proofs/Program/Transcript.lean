import TrafficLens.Program.Transaction
import TrafficLens.Service.Basic

/-!
# Transcripts

A program does the same whenever it gets the same replies, so all that can happen in a run is a list
of requests with their replies, a *transcript*. `Program.Yields p es a` says that `p` can go along
the transcript `es` and end with `a`. Nothing is said about who replies: what is proved about all
transcripts of a program holds for every database, every clock and every store, in particular for a
rehearsal (`yields_transcript`).

The transcripts of one attempt after another are those of the one, followed by those of the other
(`yields_bind`); with the equations for single requests this takes every program apart along its
own text.
-/

namespace TrafficLens

variable {α β : Type}

/-- A request and the reply that it got. -/
structure Event where
  request : Request
  reply : request.Reply

namespace Program

/-- The program can go along the transcript and end with the value. -/
def Yields : Program α → List Event → α → Prop
  | done a, es, b => es = [] ∧ b = a
  | request r next, es, b => ∃ reply rest, es = ⟨r, reply⟩ :: rest ∧ Yields (next reply) rest b

theorem yields_andThen {p : Program α} {f : α → Program β} {es : List Event} {b : β} :
    (p.andThen f).Yields es b ↔
      ∃ es₁ es₂ a, es = es₁ ++ es₂ ∧ p.Yields es₁ a ∧ (f a).Yields es₂ b := by
  induction p generalizing es with
  | done a =>
    constructor
    · exact fun h => ⟨[], es, a, rfl, ⟨rfl, rfl⟩, h⟩
    · rintro ⟨es₁, es₂, a', rfl, ⟨rfl, rfl⟩, h⟩
      exact h
  | request r next ih =>
    constructor
    · rintro ⟨reply, rest, rfl, h⟩
      obtain ⟨es₁, es₂, a, rfl, h₁, h₂⟩ := (ih reply).1 h
      exact ⟨⟨r, reply⟩ :: es₁, es₂, a, rfl, ⟨reply, es₁, rfl, h₁⟩, h₂⟩
    · rintro ⟨es₁, es₂, a, rfl, ⟨reply, rest, rfl, h₁⟩, h₂⟩
      exact ⟨reply, rest ++ es₂, rfl, (ih reply).2 ⟨rest, es₂, a, rfl, h₁, h₂⟩⟩

/-- The requests of a run, and how the handler replied. -/
def transcript {σ : Type} (handle : (r : Request) → σ → r.Reply × σ) :
    Program α → σ → List Event
  | done _, _ => []
  | request r next, s =>
    ⟨r, (handle r s).1⟩ :: transcript handle (next (handle r s).1) (handle r s).2

/-- Whoever answers the requests, the program goes along the transcript of its run. -/
theorem yields_transcript {σ : Type} (handle : (r : Request) → σ → r.Reply × σ) (p : Program α)
    (s : σ) : p.Yields (transcript handle p s) (run handle p s).1 := by
  induction p generalizing s with
  | done a => exact ⟨rfl, rfl⟩
  | request r next ih => exact ⟨(handle r s).1, _, rfl, ih _ _⟩

end Program

namespace Attempt

/-- The attempt can go along the transcript and end with the outcome. -/
def Yields (a : Attempt α) (es : List Event) (x : Except Failure α) : Prop :=
  Program.Yields a.run es x

variable {es : List Event} {a : Attempt α}

@[simp] theorem yields_pure {v : α} {x : Except Failure α} :
    (pure v : Attempt α).Yields es x ↔ es = [] ∧ x = .ok v := Iff.rfl

@[simp] theorem yields_throw {f : Failure} {x : Except Failure α} :
    (throw f : Attempt α).Yields es x ↔ es = [] ∧ x = .error f := Iff.rfl

/-- An attempt fails if its first part fails, and else ends like the rest. -/
theorem yields_bind {f : α → Attempt β} {y : Except Failure β} :
    (a >>= f).Yields es y ↔
      (∃ e, y = .error e ∧ a.Yields es (.error e)) ∨
        ∃ es₁ es₂ v, es = es₁ ++ es₂ ∧ a.Yields es₁ (.ok v) ∧ (f v).Yields es₂ y := by
  have h : (a >>= f).Yields es y ↔
      (Program.andThen a.run (ExceptT.bindCont f)).Yields es y := Iff.rfl
  rw [h, Program.yields_andThen]
  constructor
  · rintro ⟨es₁, es₂, e | v, rfl, h₁, h₂⟩
    · obtain ⟨rfl, rfl⟩ : es₂ = [] ∧ y = .error e := h₂
      exact .inl ⟨e, rfl, by rwa [List.append_nil]⟩
    · exact .inr ⟨es₁, es₂, v, rfl, h₁, h₂⟩
  · rintro (⟨e, rfl, h₁⟩ | ⟨es₁, es₂, v, rfl, h₁, h₂⟩)
    · exact ⟨es, [], .error e, by simp, h₁, rfl, rfl⟩
    · exact ⟨es₁, es₂, .ok v, rfl, h₁, h₂⟩

@[simp] theorem yields_ask {r : Request} {x : Except Failure r.Reply} :
    (ask r).Yields es x ↔ ∃ reply, es = [⟨r, reply⟩] ∧ x = .ok reply := by
  constructor
  · rintro ⟨reply, rest, rfl, rfl, rfl⟩
    exact ⟨reply, rfl, rfl⟩
  · rintro ⟨reply, rfl, rfl⟩
    exact ⟨reply, [], rfl, rfl, rfl⟩

@[simp] theorem yields_ofExcept {v x : Except Failure α} :
    (ofExcept v).Yields es x ↔ es = [] ∧ x = v := by
  cases v <;> exact Iff.rfl

@[simp] theorem yields_ofReply {v : Except DatabaseError α} {x : Except Failure α} :
    (ofReply v).Yields es x ↔ es = [] ∧ x = v.mapError .database := by
  cases v <;> exact Iff.rfl

/-- The outcome of an attempt is a value, whatever it is. -/
@[simp] theorem yields_outcome {y : Except Failure (Except Failure α)} :
    a.outcome.Yields es y ↔ ∃ x, y = .ok x ∧ a.Yields es x := by
  have h : a.outcome.Yields es y ↔
      (Program.andThen a.run fun x => .done (.ok x)).Yields es y := Iff.rfl
  rw [h, Program.yields_andThen]
  constructor
  · rintro ⟨es₁, es₂, x, rfl, h₁, rfl, rfl⟩
    exact ⟨x, rfl, by rwa [List.append_nil]⟩
  · rintro ⟨x, rfl, h₁⟩
    exact ⟨es, [], x, by simp, h₁, rfl, rfl⟩

theorem yields_outcome_bind {f : Except Failure α → Attempt β} {y : Except Failure β} :
    (a.outcome >>= f).Yields es y ↔
      ∃ es₁ es₂ x, es = es₁ ++ es₂ ∧ a.Yields es₁ x ∧ (f x).Yields es₂ y := by
  rw [yields_bind]
  constructor
  · rintro (⟨e, -, h⟩ | ⟨es₁, es₂, x, rfl, h₁, h₂⟩)
    · obtain ⟨x, hx, -⟩ := yields_outcome.1 h
      cases hx
    · obtain ⟨x, hx, h₁⟩ := yields_outcome.1 h₁
      obtain rfl := Except.ok.inj hx
      exact ⟨es₁, es₂, _, rfl, h₁, h₂⟩
  · rintro ⟨es₁, es₂, x, rfl, h₁, h₂⟩
    exact .inr ⟨es₁, es₂, x, rfl, yields_outcome.2 ⟨x, rfl, h₁⟩, h₂⟩

end Attempt

/-! ## Single requests -/

section Requests

variable {es : List Event}

@[simp] theorem yields_freshIds {x : Except Failure (Nat → Uuid)} :
    freshIds.Yields es x ↔ ∃ ids, es = [⟨.freshIds, ids⟩] ∧ x = .ok ids :=
  Attempt.yields_ask

theorem yields_currentTime_bind {next : Instant → Attempt α} {x : Except Failure α}
    (h : (currentTime >>= next).Yields es x) :
    ∃ (now : Instant) (rest : List Event), es = ⟨.now, now⟩ :: rest ∧ (next now).Yields rest x := by
  obtain ⟨_, -, hnow⟩ | ⟨_, rest, now, rfl, hnow, hrest⟩ := Attempt.yields_bind.1 h
  · obtain ⟨_, -, hreply⟩ := Attempt.yields_ask.1 hnow
    cases hreply
  · obtain ⟨_, rfl, hreply⟩ := Attempt.yields_ask.1 hnow
    obtain rfl := Except.ok.inj hreply
    exact ⟨_, rest, rfl, hrest⟩

/-- An attempt that is a request to the database and then its reply. -/
theorem yields_ask_ofReply {r : Request} (f : r.Reply → Except DatabaseError α)
    {x : Except Failure α} :
    (Attempt.ask r >>= fun reply => Attempt.ofReply (f reply)).Yields es x ↔
      ∃ reply, es = [⟨r, reply⟩] ∧ x = (f reply).mapError .database := by
  rw [Attempt.yields_bind]
  constructor
  · rintro (⟨e, -, h⟩ | ⟨es₁, es₂, v, rfl, h₁, h₂⟩)
    · obtain ⟨reply, -, h⟩ := Attempt.yields_ask.1 h
      cases h
    · obtain ⟨reply, rfl, h⟩ := Attempt.yields_ask.1 h₁
      obtain rfl := Except.ok.inj h
      obtain ⟨rfl, rfl⟩ := Attempt.yields_ofReply.1 h₂
      exact ⟨v, rfl, rfl⟩
  · rintro ⟨reply, rfl, rfl⟩
    exact .inr ⟨[⟨r, reply⟩], [], reply, rfl, Attempt.yields_ask.2 ⟨reply, rfl, rfl⟩,
      Attempt.yields_ofReply.2 ⟨rfl, rfl⟩⟩

/-- A request to the database ends the attempt if its reply is an error. -/
theorem yields_ask_ofReply_bind {r : Request} (f : r.Reply → Except DatabaseError α)
    {next : α → Attempt β} {y : Except Failure β} :
    ((Attempt.ask r >>= fun reply => Attempt.ofReply (f reply)) >>= next).Yields es y ↔
      (∃ reply e, f reply = .error e ∧ es = [⟨r, reply⟩] ∧ y = .error (.database e)) ∨
        ∃ reply v rest, f reply = .ok v ∧ es = ⟨r, reply⟩ :: rest ∧ (next v).Yields rest y := by
  rw [Attempt.yields_bind]
  constructor
  · rintro (⟨e, rfl, h⟩ | ⟨es₁, es₂, v, rfl, h₁, h₂⟩)
    · obtain ⟨reply, rfl, hx⟩ := (yields_ask_ofReply f).1 h
      cases hf : f reply with
      | error e' =>
        rw [hf] at hx
        obtain rfl := Except.error.inj hx
        exact .inl ⟨reply, e', hf, rfl, rfl⟩
      | ok v =>
        rw [hf] at hx
        cases hx
    · obtain ⟨reply, rfl, hx⟩ := (yields_ask_ofReply f).1 h₁
      cases hf : f reply with
      | error e' =>
        rw [hf] at hx
        cases hx
      | ok w =>
        rw [hf] at hx
        obtain rfl := Except.ok.inj hx
        exact .inr ⟨reply, _, es₂, hf, rfl, h₂⟩
  · rintro (⟨reply, e, hf, rfl, rfl⟩ | ⟨reply, v, rest, hf, rfl, h⟩)
    · refine .inl ⟨_, rfl, (yields_ask_ofReply f).2 ⟨reply, rfl, ?_⟩⟩
      rw [hf]
      rfl
    · refine .inr ⟨[⟨r, reply⟩], rest, v, rfl, (yields_ask_ofReply f).2 ⟨reply, rfl, ?_⟩, h⟩
      rw [hf]
      rfl

/-- The same for a request whose replies are errors and answers, and nothing else. -/
theorem yields_ask_answer_bind {r : Request} {f : r.Reply → Except DatabaseError α}
    {g : Except DatabaseError α → r.Reply} (hfg : ∀ x, f (g x) = x)
    (hgf : ∀ reply, g (f reply) = reply) {next : α → Attempt β} {y : Except Failure β} :
    ((Attempt.ask r >>= fun reply => Attempt.ofReply (f reply)) >>= next).Yields es y ↔
      (∃ e, es = [⟨r, g (.error e)⟩] ∧ y = .error (.database e)) ∨
        ∃ v rest, es = ⟨r, g (.ok v)⟩ :: rest ∧ (next v).Yields rest y := by
  rw [yields_ask_ofReply_bind]
  constructor
  · rintro (⟨reply, e, hf, rfl, rfl⟩ | ⟨reply, v, rest, hf, rfl, h⟩)
    · exact .inl ⟨e, by rw [← hf, hgf], rfl⟩
    · exact .inr ⟨v, rest, by rw [← hf, hgf], h⟩
  · rintro (⟨e, rfl, rfl⟩ | ⟨v, rest, rfl, h⟩)
    · exact .inl ⟨_, e, hfg _, rfl, rfl⟩
    · exact .inr ⟨_, v, rest, hfg _, rfl, h⟩

theorem yields_send {route : Route} {t : Tenant} {command : Command}
    {x : Except Failure command.Answer} :
    (send route t command).Yields es x ↔
      ∃ reply : Except DatabaseError command.Answer,
        es = [⟨.command route t command, reply⟩] ∧ x = reply.mapError .database :=
  yields_ask_ofReply (r := .command route t command) id

variable {y : Except Failure β}

theorem yields_send_bind {route : Route} {t : Tenant} {command : Command}
    {next : command.Answer → Attempt β} :
    (send route t command >>= next).Yields es y ↔
      (∃ e, es = [⟨.command route t command, Except.error e⟩] ∧ y = .error (.database e)) ∨
        ∃ v rest, es = ⟨.command route t command, Except.ok v⟩ :: rest ∧
          (next v).Yields rest y :=
  yields_ask_answer_bind (r := .command route t command) (f := id) (g := id) (fun _ => rfl)
    fun _ => rfl

theorem yields_sendShared_bind {command : SharedCommand} {next : command.Answer → Attempt β} :
    (sendShared command >>= next).Yields es y ↔
      (∃ e, es = [⟨.shared command, Except.error e⟩] ∧ y = .error (.database e)) ∨
        ∃ v rest, es = ⟨.shared command, Except.ok v⟩ :: rest ∧ (next v).Yields rest y :=
  yields_ask_answer_bind (r := .shared command) (f := id) (g := id) (fun _ => rfl) fun _ => rfl

variable {c : ConnectionId} {next : Unit → Attempt β}

theorem yields_rollbackLevel {x : Except Failure Unit} :
    (rollbackLevel c).Yields es x ↔ ∃ reply : Except DatabaseError Unit,
      es = [⟨.rollbackLevel c, reply⟩] ∧ x = reply.mapError .database :=
  yields_ask_ofReply (r := .rollbackLevel c) id

theorem yields_openLevel_bind : (openLevel c >>= next).Yields es y ↔
    (∃ reply e, reply = .error e ∧ es = [⟨.openLevel c, reply⟩] ∧ y = .error (.database e)) ∨
      ∃ reply v rest, reply = .ok v ∧ es = ⟨.openLevel c, reply⟩ :: rest ∧ (next v).Yields rest y :=
  yields_ask_ofReply_bind (r := .openLevel c) id

theorem yields_commitLevel_bind : (commitLevel c >>= next).Yields es y ↔
    (∃ reply e, reply = .error e ∧ es = [⟨.commitLevel c, reply⟩] ∧ y = .error (.database e)) ∨
      ∃ reply v rest, reply = .ok v ∧ es = ⟨.commitLevel c, reply⟩ :: rest ∧
        (next v).Yields rest y :=
  yields_ask_ofReply_bind (r := .commitLevel c) id

theorem yields_rollbackLevel_bind : (rollbackLevel c >>= next).Yields es y ↔
    (∃ reply e, reply = .error e ∧ es = [⟨.rollbackLevel c, reply⟩] ∧ y = .error (.database e)) ∨
      ∃ reply v rest, reply = .ok v ∧ es = ⟨.rollbackLevel c, reply⟩ :: rest ∧
        (next v).Yields rest y :=
  yields_ask_ofReply_bind (r := .rollbackLevel c) id

theorem yields_askMemory {call : StoreCall} {x : Except Failure call.Answer} :
    (EndpointStore.askMemory call).Yields es x ↔ ∃ reply : Except Failure call.Answer,
      es = [⟨.store call, reply⟩] ∧ x = reply := by
  rw [EndpointStore.askMemory, Attempt.yields_bind]
  constructor
  · rintro (⟨e, -, h⟩ | ⟨es₁, es₂, v, rfl, h₁, h₂⟩)
    · obtain ⟨reply, -, h⟩ := Attempt.yields_ask.1 h
      cases h
    · obtain ⟨reply, rfl, h⟩ := Attempt.yields_ask.1 h₁
      obtain rfl := Except.ok.inj h
      obtain ⟨rfl, rfl⟩ := Attempt.yields_ofExcept.1 h₂
      exact ⟨_, rfl, rfl⟩
  · rintro ⟨reply, rfl, rfl⟩
    exact .inr ⟨[⟨.store call, _⟩], [], _, rfl, Attempt.yields_ask.2 ⟨_, rfl, rfl⟩,
      Attempt.yields_ofExcept.2 ⟨rfl, rfl⟩⟩

/-- An attempt with a connection is what is done with it, unless there is none. -/
theorem yields_withConnection {body : ConnectionId → Attempt α} {x : Except Failure α}
    (h : (withConnection body).Yields es x) :
    (∃ e, es = [⟨.checkout, Except.error e⟩] ∧ x = .error (.database e)) ∨
      ∃ c inside, es = ⟨.checkout, Except.ok c⟩ :: (inside ++ [⟨.giveBack c, ()⟩]) ∧
        (body c).Yields inside x := by
  obtain ⟨_, e, rfl, rfl, rfl⟩ | ⟨_, c, rest, rfl, rfl, hrest⟩ :=
    (yields_ask_ofReply_bind (r := .checkout) id).1 h
  · exact .inl ⟨e, rfl, rfl⟩
  · obtain ⟨inside, _, y, rfl, hbody, hback⟩ := Attempt.yields_outcome_bind.1 hrest
    obtain ⟨e, rfl, hask⟩ | ⟨_, _, v, rfl, hask, hlast⟩ := Attempt.yields_bind.1 hback
    · obtain ⟨reply, -, hreply⟩ := Attempt.yields_ask.1 hask
      cases hreply
    · obtain ⟨⟨⟩, rfl, -⟩ := Attempt.yields_ask.1 hask
      obtain ⟨rfl, rfl⟩ := Attempt.yields_ofExcept.1 hlast
      exact .inr ⟨c, inside, rfl, hbody⟩

end Requests

/-! ## Levels -/

/-- The ways in which a level around an attempt goes. What follows a body that failed is left to
`next`, so this is a transaction as well as a try of a step. -/
inductive LevelYields (c : ConnectionId) (a : Attempt α) (next : Failure → Attempt α) :
    List Event → Except Failure α → Prop
  | unopened (e : DatabaseError) :
    LevelYields c a next [⟨.openLevel c, Except.error e⟩] (.error (.database e))
  | uncommitted {es : List Event} {v : α} (e : DatabaseError) (h : a.Yields es (.ok v)) :
    LevelYields c a next
      (⟨.openLevel c, Except.ok ()⟩ :: (es ++ [⟨.commitLevel c, Except.error e⟩]))
      (.error (.database e))
  | committed {es : List Event} {v : α} (h : a.Yields es (.ok v)) :
    LevelYields c a next
      (⟨.openLevel c, Except.ok ()⟩ :: (es ++ [⟨.commitLevel c, Except.ok ()⟩])) (.ok v)
  | failed {es rest : List Event} {f : Failure} {x : Except Failure α}
      (h : a.Yields es (.error f)) (hnext : (next f).Yields rest x) :
    LevelYields c a next (⟨.openLevel c, Except.ok ()⟩ :: (es ++ rest)) x

theorem yields_level {c : ConnectionId} {a : Attempt α} {next : Failure → Attempt α}
    {es : List Event} {x : Except Failure α}
    (hy : Attempt.Yields (do
      openLevel c
      match ← a.outcome with
      | .ok v =>
        commitLevel c
        pure v
      | .error f => next f) es x) : LevelYields c a next es x := by
  obtain ⟨_, e, rfl, rfl, rfl⟩ | ⟨_, ⟨⟩, _, rfl, rfl, hlevel⟩ := yields_openLevel_bind.1 hy
  · exact .unopened e
  obtain ⟨es₁, es₂, y, rfl, h₁, h₂⟩ := Attempt.yields_outcome_bind.1 hlevel
  cases y with
  | ok v =>
    obtain ⟨_, e, rfl, rfl, rfl⟩ | ⟨_, ⟨⟩, _, rfl, rfl, ⟨rfl, rfl⟩⟩ := yields_commitLevel_bind.1 h₂
    · exact .uncommitted e h₁
    · exact .committed h₁
  | error f => exact .failed h₁ h₂

/-! ## What an attempt can ask -/

namespace Attempt

variable {P : Request → Prop} {a : Attempt α}

/-- Whatever is replied, all requests of the attempt satisfy the condition. -/
def Asks (P : Request → Prop) (a : Attempt α) : Prop :=
  ∀ ⦃es x⦄, a.Yields es x → ∀ e ∈ es, P e.request

theorem Asks.mono {Q : Request → Prop} (h : Asks P a) (hPQ : ∀ r, P r → Q r) : Asks Q a :=
  fun _ _ hy e he => hPQ _ (h hy e he)

theorem asks_pure (v : α) : Asks P (pure v : Attempt α) := by
  rintro es x ⟨rfl, -⟩ e he
  cases he

theorem asks_throw (f : Failure) : Asks P (throw f : Attempt α) := by
  rintro es x ⟨rfl, -⟩ e he
  cases he

theorem Asks.bind {f : α → Attempt β} (ha : Asks P a) (hf : ∀ v, Asks P (f v)) :
    Asks P (a >>= f) := by
  intro es x h e he
  obtain ⟨_, -, h⟩ | ⟨es₁, es₂, v, rfl, h₁, h₂⟩ := yields_bind.1 h
  · exact ha h e he
  · rcases List.mem_append.1 he with he | he
    · exact ha h₁ e he
    · exact hf v h₂ e he

/-- A part that may be left out, with a value in its place. -/
theorem Asks.bind_of_isTrue {b : Bool} {f : α → Attempt β} (ha : Asks P a) (v : α)
    (hf : ∀ v, Asks P (f v)) : Asks P (if b then f v else a >>= f) := by
  cases b
  · exact ha.bind hf
  · exact hf v

theorem asks_ask {r : Request} (h : P r) : Asks P (ask r) := by
  intro es x hy e he
  obtain ⟨reply, rfl, -⟩ := yields_ask.1 hy
  obtain rfl := List.mem_singleton.1 he
  exact h

theorem asks_ofReply (v : Except DatabaseError α) : Asks P (ofReply v) := by
  cases v
  · exact asks_throw _
  · exact asks_pure _

theorem asks_ofExcept (v : Except Failure α) : Asks P (ofExcept v) := by
  cases v
  · exact asks_throw _
  · exact asks_pure _

theorem Asks.outcome (h : Asks P a) : Asks P a.outcome := by
  intro es x hy
  obtain ⟨y, -, hy⟩ := yields_outcome.1 hy
  exact h hy

theorem asks_send {route : Route} {t : Tenant} {command : Command}
    (h : P (.command route t command)) : Asks P (send route t command) :=
  (asks_ask h).bind fun _ => asks_ofReply _

theorem Asks.withConnection {body : ConnectionId → Attempt α} (hcheckout : P .checkout)
    (hback : ∀ c, P (.giveBack c)) (h : ∀ c, Asks P (body c)) : Asks P (withConnection body) :=
  ((asks_ask hcheckout).bind fun _ => asks_ofReply _).bind fun c =>
    (h c).outcome.bind fun x => (asks_ask (hback c)).bind fun _ => asks_ofExcept x

/-! ### Levels and tries -/

section Levels

variable {c : ConnectionId} (hopen : P (.openLevel c)) (hcommit : P (.commitLevel c))
  (hrollback : P (.rollbackLevel c)) (hwait : ∀ millis, P (.wait millis))

include hopen hcommit in
theorem Asks.level {next : Failure → Attempt α} (h : Asks P a) (hnext : ∀ f, Asks P (next f)) :
    Asks P (do
      openLevel c
      match ← a.outcome with
      | .ok v =>
        commitLevel c
        pure v
      | .error f => next f) := by
  refine ((asks_ask hopen).bind fun _ => asks_ofReply _).bind fun _ => h.outcome.bind fun x => ?_
  cases x with
  | ok v => exact ((asks_ask hcommit).bind fun _ => asks_ofReply _).bind fun _ => asks_pure v
  | error f => exact hnext f

include hrollback in
theorem asks_rollbackLevel : Asks P (rollbackLevel c) :=
  (asks_ask hrollback).bind fun _ => asks_ofReply _

include hopen hcommit hrollback in
theorem Asks.transaction (h : Asks P a) : Asks P (transaction c a) :=
  h.level hopen hcommit fun f => (asks_rollbackLevel hrollback).outcome.bind fun _ => asks_throw f

include hopen hcommit hrollback hwait in
theorem Asks.retryStep {p : RetryPolicy} (h : Asks P a) : Asks P (retryStep p c a) := by
  have hfrom : ∀ left failures, Asks P (retryStepFrom p c a left failures) := by
    intro left
    induction left with
    | zero =>
      intro failures
      rw [retryStepFrom]
      exact h.level hopen hcommit fun f =>
        (asks_rollbackLevel hrollback).bind fun _ => asks_throw f
    | succ left ih =>
      intro failures
      rw [retryStepFrom]
      refine h.level hopen hcommit fun f => (asks_rollbackLevel hrollback).bind fun _ => ?_
      dsimp only
      split
      · exact (asks_ask (hwait _)).bind fun _ => ih (failures + 1)
      · exact asks_throw f
  exact hfrom p.retries 0

/-- A retried query ends like its last try; before it are tries that failed, and waits. -/
theorem yields_retryQuery {p : RetryPolicy} {query : Attempt α} {es : List Event}
    {x : Except Failure α} (h : (retryQuery p query).Yields es x) :
    ∃ before last, es = before ++ last ∧ query.Yields last x ∧
      ∀ e ∈ before, (∃ millis, e.request = .wait millis) ∨
        ∃ es' f, query.Yields es' (.error f) ∧ e ∈ es' := by
  have hfrom : ∀ left failures es, Program.Yields
      (p.retryFrom (fun millis => Program.ask (.wait millis)) query.run left failures) es x →
      ∃ before last, es = before ++ last ∧ query.Yields last x ∧
        ∀ e ∈ before, (∃ millis, e.request = .wait millis) ∨
          ∃ es' f, query.Yields es' (.error f) ∧ e ∈ es' := by
    intro left
    induction left with
    | zero => exact fun failures es h => ⟨[], es, rfl, h, by simp⟩
    | succ left ih =>
      intro failures es h
      obtain ⟨es₁, es₂, y, rfl, h₁, h₂⟩ := Program.yields_andThen.1 h
      cases y with
      | ok v =>
        obtain ⟨rfl, rfl⟩ := h₂
        exact ⟨[], es₁ ++ [], rfl, by rwa [List.append_nil], by simp⟩
      | error f =>
        dsimp only at h₂
        split at h₂
        · obtain ⟨_, es₃, -, rfl, ⟨reply, _, rfl, rfl, -⟩, h₃⟩ := Program.yields_andThen.1 h₂
          obtain ⟨before, last, rfl, hlast, hbefore⟩ := ih _ _ h₃
          refine ⟨es₁ ++ ⟨.wait _, reply⟩ :: before, last, by simp, hlast, fun e he => ?_⟩
          rcases List.mem_append.1 he with he | he
          · exact .inr ⟨es₁, f, h₁, he⟩
          · rcases List.mem_cons.1 he with rfl | he
            · exact .inl ⟨_, rfl⟩
            · exact hbefore e he
        · obtain ⟨rfl, rfl⟩ := h₂
          exact ⟨[], es₁ ++ [], rfl, by rwa [List.append_nil], by simp⟩
  exact hfrom p.retries 0 es h

theorem Asks.retryQuery {p : RetryPolicy} (h : Asks P a) (hwait : ∀ millis, P (.wait millis)) :
    Asks P (retryQuery p a) := by
  intro es x hy e he
  obtain ⟨before, last, rfl, hlast, hbefore⟩ := yields_retryQuery hy
  rcases List.mem_append.1 he with he | he
  · obtain ⟨millis, hr⟩ | ⟨es', f, hy', he'⟩ := hbefore e he
    · exact hr ▸ hwait millis
    · exact h hy' e he'
  · exact h hlast e he

end Levels

end Attempt

/-! ## What an attempt delivers -/

namespace Attempt

variable {W : α → Prop} {V : β → Prop} {a : Attempt α}

/-- Whatever is replied, if the attempt ends with a value then the value satisfies the condition. -/
def Delivers (W : α → Prop) (a : Attempt α) : Prop := ∀ ⦃es v⦄, a.Yields es (.ok v) → W v

theorem delivers_pure {v : α} (h : W v) : Delivers W (pure v : Attempt α) := by
  rintro es w ⟨-, hw⟩
  exact Except.ok.inj hw ▸ h

theorem delivers_throw (f : Failure) : Delivers W (throw f : Attempt α) := by
  rintro es v ⟨-, hv⟩
  cases hv

theorem Delivers.bind {f : α → Attempt β} (ha : Delivers W a)
    (hf : ∀ v, W v → Delivers V (f v)) : Delivers V (a >>= f) := by
  intro es w hy
  obtain ⟨e, hw, -⟩ | ⟨_, _, v, -, h₁, h₂⟩ := yields_bind.1 hy
  · cases hw
  · exact hf v (ha h₁) h₂

/-- An attempt delivers what its last part does, whatever comes before. -/
theorem delivers_bind {f : α → Attempt β} (hf : ∀ v, Delivers V (f v)) : Delivers V (a >>= f) :=
  Delivers.bind (W := fun _ => True) (fun _ _ _ => trivial) fun v _ => hf v

end Attempt

end TrafficLens
