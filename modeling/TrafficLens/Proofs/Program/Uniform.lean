import TrafficLens.Program.Transaction

/-!
# Programs that are alike for all tenants

A family of programs, one for each tenant, is *uniform* if the tenant is nothing but the addressee
of commands: it decides neither what is asked nor what comes out, and nothing is asked of what
tenants share (`Program.Uniform`). Uniform attempts are put together from uniform attempts, also by
levels and tries.

A `Mirror` shows the states of a handler as other states, those that satisfy an invariant. If one
tenant's commands do in the mirror what the other's do before it, and all other requests do in the
mirror what they do before it, then so do uniform programs (`Program.Uniform.shows`).
-/

namespace TrafficLens

/-- The request concerns neither the tables of a tenant nor what tenants share. -/
def Request.IsLocal : Request → Prop
  | command .. | shared .. => False
  | _ => True

variable {α β : Type}

namespace Program

/-- The tenant is nothing but the addressee of commands. -/
inductive Uniform : (Tenant → Program α) → Prop where
  | done (a : α) : Uniform fun _ => .done a
  | command (route : Route) (c : Command)
    {next : Tenant → Except DatabaseError c.Answer → Program α}
    (h : ∀ reply, Uniform fun t => next t reply) :
    Uniform fun t => .request (.command route t c) (next t)
  | local {r : Request} (hr : r.IsLocal) {next : Tenant → r.Reply → Program α}
    (h : ∀ reply, Uniform fun t => next t reply) : Uniform fun t => .request r (next t)

theorem Uniform.andThen {p : Tenant → Program α} {f : Tenant → α → Program β} (hp : Uniform p)
    (hf : ∀ a, Uniform fun t => f t a) : Uniform fun t => (p t).andThen (f t) := by
  induction hp with
  | done a => exact hf a
  | command route c _ ih => exact .command route c ih
  | «local» hr _ ih => exact .local hr ih

end Program

/-! ## Uniform attempts -/

namespace Attempt

/-- The tenant is nothing but the addressee of commands. -/
def Uniform (a : Tenant → Attempt α) : Prop := Program.Uniform fun t => (a t).run

variable {a : Tenant → Attempt α}

theorem uniform_pure (v : α) : Uniform fun _ => (pure v : Attempt α) :=
  .done (Except.ok v)

theorem uniform_throw (f : Failure) : Uniform fun _ => (throw f : Attempt α) :=
  .done (Except.error f)

theorem Uniform.bind {f : Tenant → α → Attempt β} (ha : Uniform a)
    (hf : ∀ v, Uniform fun t => f t v) : Uniform fun t => a t >>= f t :=
  Program.Uniform.andThen ha fun x =>
    match x with
    | .ok v => hf v
    | .error e => .done (Except.error e)

theorem uniform_ask {r : Request} (h : r.IsLocal) : Uniform fun _ => ask r :=
  .local h fun reply => .done (Except.ok reply)

theorem uniform_ofReply (v : Except DatabaseError α) : Uniform fun _ => ofReply v := by
  cases v
  · exact uniform_throw _
  · exact uniform_pure _

theorem uniform_ofExcept (v : Except Failure α) : Uniform fun _ => ofExcept v := by
  cases v
  · exact uniform_throw _
  · exact uniform_pure _

theorem Uniform.outcome (h : Uniform a) : Uniform fun t => (a t).outcome :=
  Program.Uniform.andThen h fun x => .done (Except.ok x)

theorem uniform_send (route : Route) (c : Command) : Uniform fun t => send route t c := by
  have hask : Uniform fun t => ask (.command route t c) :=
    .command route c fun reply => .done (Except.ok reply)
  exact hask.bind uniform_ofReply

theorem uniform_currentTime : Uniform fun _ => currentTime := uniform_ask (r := .now) trivial

theorem uniform_freshIds : Uniform fun _ => freshIds := uniform_ask (r := .freshIds) trivial

/-! ### Levels and tries -/

variable {c : ConnectionId}

theorem uniform_openLevel : Uniform fun _ => openLevel c :=
  (uniform_ask (r := .openLevel c) trivial).bind uniform_ofReply

theorem uniform_commitLevel : Uniform fun _ => commitLevel c :=
  (uniform_ask (r := .commitLevel c) trivial).bind uniform_ofReply

theorem uniform_rollbackLevel : Uniform fun _ => rollbackLevel c :=
  (uniform_ask (r := .rollbackLevel c) trivial).bind uniform_ofReply

theorem Uniform.level {next : Tenant → Failure → Attempt α} (h : Uniform a)
    (hnext : ∀ f, Uniform fun t => next t f) :
    Uniform fun t => (do
      openLevel c
      match ← (a t).outcome with
      | .ok v =>
        commitLevel c
        pure v
      | .error f => next t f) := by
  refine uniform_openLevel.bind fun _ => h.outcome.bind fun x => ?_
  cases x with
  | ok v => exact uniform_commitLevel.bind fun _ => uniform_pure v
  | error f => exact hnext f

theorem Uniform.transaction (h : Uniform a) : Uniform fun t => transaction c (a t) :=
  h.level fun f => uniform_rollbackLevel.outcome.bind fun _ => uniform_throw f

theorem Uniform.retryStep {p : RetryPolicy} (h : Uniform a) :
    Uniform fun t => retryStep p c (a t) := by
  have hfrom : ∀ left failures, Uniform fun t => retryStepFrom p c (a t) left failures := by
    intro left
    induction left with
    | zero =>
      intro failures
      rw [funext fun t => retryStepFrom.eq_def p c (a t) _ _]
      exact h.level fun f => uniform_rollbackLevel.bind fun _ => uniform_throw f
    | succ left ih =>
      intro failures
      rw [funext fun t => retryStepFrom.eq_def p c (a t) _ _]
      refine h.level fun f => uniform_rollbackLevel.bind fun _ => ?_
      by_cases hf : f.isTransient
      · simp only [hf, if_true]
        exact (uniform_ask (r := .wait _) trivial).bind fun _ => ih (failures + 1)
      · simp only [hf]
        exact uniform_throw f
  exact hfrom p.retries 0

theorem Uniform.retryQuery {p : RetryPolicy} (h : Uniform a) :
    Uniform fun t => retryQuery p (a t) := by
  have hfrom : ∀ left failures, Program.Uniform fun t =>
      p.retryFrom (fun millis => Program.ask (.wait millis)) (a t).run left failures := by
    intro left
    induction left with
    | zero => exact fun _ => h
    | succ left ih =>
      intro failures
      refine Program.Uniform.andThen h fun x => ?_
      cases x with
      | ok v => exact .done (Except.ok v)
      | error f =>
        by_cases hf : f.isTransient
        · simp only [hf, if_true]
          exact .local (r := .wait _) trivial fun _ => ih (failures + 1)
        · simp only [hf]
          exact .done (Except.error f)
  exact hfrom p.retries 0

theorem Uniform.withConnection {body : Tenant → ConnectionId → Attempt α}
    (h : ∀ c, Uniform fun t => body t c) : Uniform fun t => withConnection (body t) := by
  refine ((uniform_ask (r := .checkout) trivial).bind uniform_ofReply).bind fun c => ?_
  exact (h c).outcome.bind fun x =>
    (uniform_ask (r := .giveBack c) trivial).bind fun _ => uniform_ofExcept x

end Attempt

/-! ## Mirrors -/

/-- Some states of a handler, and what they are shown as. -/
structure Mirror (σ : Type) where
  invariant : σ → Prop
  image : σ → σ

namespace Mirror

variable {σ : Type} (m : Mirror σ)

/-- From the states of the mirror on, the second action does in the mirror what the first one does
before it, with a result of this kind. -/
def ShowsWith (P : α → Prop) (act act' : StateM σ α) : Prop :=
  ∀ s, m.invariant s → P (act.run s).1 ∧ m.invariant (act.run s).2 ∧
    act'.run (m.image s) = ((act.run s).1, m.image (act.run s).2)

/-- The same, whatever the result is. -/
abbrev Shows (act act' : StateM σ α) : Prop := m.ShowsWith (fun _ => True) act act'

variable {m} {P : α → Prop} {Q : β → Prop} {act act' : StateM σ α}

theorem showsWith_pure {a : α} (h : P a) : m.ShowsWith P (pure a) (pure a) :=
  fun _ hs => ⟨h, hs, rfl⟩

theorem shows_pure (a : α) : m.Shows (pure a) (pure a) := showsWith_pure trivial

theorem ShowsWith.bind {f f' : α → StateM σ β} (h : m.ShowsWith P act act')
    (hf : ∀ a, P a → m.ShowsWith Q (f a) (f' a)) : m.ShowsWith Q (act >>= f) (act' >>= f') := by
  intro s hs
  obtain ⟨ha, hact, heq⟩ := h s hs
  obtain ⟨hb, hnext, heq'⟩ := hf _ ha _ hact
  refine ⟨hb, hnext, ?_⟩
  rw [StateT.run_bind, heq]
  exact heq'

end Mirror

open Mirror in
/-- **What a uniform program does for one tenant before a mirror, it does for the other one in the
mirror.** -/
theorem Program.Uniform.shows {σ : Type} {m : Mirror σ}
    {handle : (r : Request) → StateM σ r.Reply} {t u : Tenant}
    (hlocal : ∀ r, r.IsLocal → m.Shows (handle r) (handle r))
    (hcommand : ∀ route c,
      m.Shows (handle (.command route t c)) (handle (.command route u c)))
    {p : Tenant → Program α} (hp : Uniform p) :
    m.Shows (fun s => run (fun r => (handle r).run) (p t) s)
      (fun s => run (fun r => (handle r).run) (p u) s) := by
  induction hp with
  | done a => exact shows_pure a
  | command route c _ ih => exact (hcommand route c).bind fun reply _ => ih reply
  | «local» hr _ ih => exact (hlocal _ hr).bind fun reply _ => ih reply

end TrafficLens
