import TrafficLens.Proofs.Program.Clerk
import TrafficLens.Proofs.Program.Ledger

/-!
# Runs in which nothing fails

A transcript is smooth for a store in memory if the database, the queue and the store answer every
request without a failure, and the store answers as the endpoints in it say
(`MemoryStore.Smooth`). `Attempt.Performs` says what an attempt does in all of its smooth
transcripts: it ends with a value, every transaction that it opens is committed, and the value, the
store that it leaves and the statements of its transactions satisfy a condition. The rules for it
follow the text of attempts; what goes on inside a transaction need only be calm, that is, not fail
of its own accord (`Attempt.Calm`).
-/

namespace TrafficLens

variable {α β : Type}

namespace MemoryStore

/-- The event is no failure. If it is a question to the store in memory then the answer is that of
these endpoints. -/
def Answers (s : MemoryStore) : Event → Prop
  | ⟨.store call, reply⟩ => reply = Except.ok (s.perform call).1
  | ⟨.openLevel _, reply⟩ | ⟨.commitLevel _, reply⟩ | ⟨.rollbackLevel _, reply⟩ =>
    ∃ v, reply = Except.ok v
  | ⟨.checkout, reply⟩ => ∃ v, reply = Except.ok v
  | ⟨.command _ _ _, reply⟩ => ∃ v, reply = Except.ok v
  | ⟨.shared _, reply⟩ => ∃ v, reply = Except.ok v
  | ⟨.pushItem _, reply⟩ => ∃ v, reply = Except.ok v
  | ⟨.popItem, reply⟩ => ∃ v, reply = Except.ok v
  | _ => True

/-- The endpoints in the store after an event. -/
def next (s : MemoryStore) : Event → MemoryStore
  | ⟨.store call, _⟩ => (s.perform call).2
  | _ => s

/-- The endpoints in the store after a transcript. -/
def after (s : MemoryStore) (es : List Event) : MemoryStore := es.foldl next s

/-- Nothing fails in the transcript, and the store answers as the endpoints in it say. -/
def Smooth : MemoryStore → List Event → Prop
  | _, [] => True
  | s, e :: es => s.Answers e ∧ Smooth (s.next e) es

variable {s : MemoryStore}

@[simp] theorem after_nil : s.after [] = s := rfl

@[simp] theorem after_cons (e : Event) (es : List Event) :
    s.after (e :: es) = (s.next e).after es := rfl

@[simp] theorem after_append (es₁ es₂ : List Event) :
    s.after (es₁ ++ es₂) = (s.after es₁).after es₂ :=
  List.foldl_append

theorem smooth_cons {e : Event} {es : List Event} :
    s.Smooth (e :: es) ↔ s.Answers e ∧ (s.next e).Smooth es := Iff.rfl

theorem smooth_append {es₁ es₂ : List Event} :
    s.Smooth (es₁ ++ es₂) ↔ s.Smooth es₁ ∧ (s.after es₁).Smooth es₂ := by
  induction es₁ generalizing s with
  | nil => simp [Smooth]
  | cons e es₁ ih => rw [List.cons_append, smooth_cons, smooth_cons, ih, and_assoc, after_cons]

end MemoryStore

/-! ## Clerks who refuse nothing -/

namespace Clerk

theorem answer_of_plan {k : Clerk} (h : k.plan = []) (v : α) : k.answer v = (.ok v, k) := by
  rw [answer, h]

theorem plan_reply {k : Clerk} (h : k.plan = []) (r : Request) : (reply r k).2.plan = [] := by
  cases r <;> simp [reply, answer, h]

theorem answers_reply {k : Clerk} (h : k.plan = []) (r : Request) :
    k.store.Answers ⟨r, (reply r k).1⟩ ∧ (reply r k).2.store = k.store.next ⟨r, (reply r k).1⟩ := by
  cases r with
  | store call => exact ⟨rfl, rfl⟩
  | checkout | openLevel d | commitLevel d | rollbackLevel d | command route t command
  | shared command =>
    rw [reply, answer_of_plan h]
    exact ⟨⟨_, rfl⟩, rfl⟩
  | pushItem item | popItem => exact ⟨⟨_, rfl⟩, rfl⟩
  | _ => exact ⟨trivial, rfl⟩

/-- The transcript of a clerk who has no refusals planned is smooth. -/
theorem smooth_transcript {k : Clerk} (h : k.plan = []) (a : Attempt α) :
    k.store.Smooth (k.transcript a) := by
  have hprogram : ∀ p : Program (Except Failure α), k.store.Smooth (p.transcript reply k) := by
    intro p
    induction p generalizing k with
    | done x => trivial
    | request r next ih =>
      obtain ⟨hanswers, hstore⟩ := answers_reply h r
      refine ⟨hanswers, ?_⟩
      rw [← hstore]
      exact ih _ (plan_reply h r)
  exact hprogram a.run

end Clerk

/-! ## Attempts that do not fail of their own accord -/

namespace Attempt

open Ledger

variable {c : ConnectionId} {s : MemoryStore} {a : Attempt α}

/-- If nothing fails then the attempt succeeds, and it leaves the store in memory alone. -/
def Calm (a : Attempt α) : Prop :=
  ∀ ⦃s : MemoryStore⦄ ⦃es x⦄, a.Yields es x → s.Smooth es → (∃ v, x = .ok v) ∧ s.after es = s

theorem calm_pure (v : α) : Calm (pure v : Attempt α) := by
  rintro s es x ⟨rfl, rfl⟩ -
  exact ⟨⟨v, rfl⟩, rfl⟩

theorem Calm.bind {f : α → Attempt β} (ha : Calm a) (hf : ∀ v, Calm (f v)) : Calm (a >>= f) := by
  intro s es y hy hes
  obtain ⟨e, rfl, h⟩ | ⟨es₁, es₂, v, rfl, h₁, h₂⟩ := yields_bind.1 hy
  · obtain ⟨⟨v, hv⟩, -⟩ := ha h hes
    cases hv
  · obtain ⟨hes₁, hes₂⟩ := MemoryStore.smooth_append.1 hes
    obtain ⟨-, hstore₁⟩ := ha h₁ hes₁
    rw [hstore₁] at hes₂
    rw [MemoryStore.after_append, hstore₁]
    exact hf v h₂ hes₂

theorem calm_send (route : Route) (t : Tenant) (command : Command) :
    Calm (send route t command) := by
  intro s es x hy hes
  obtain ⟨reply, rfl, rfl⟩ := yields_send.1 hy
  obtain ⟨⟨v, rfl⟩, -⟩ := hes
  exact ⟨⟨v, rfl⟩, rfl⟩

/-- A level whose body is calm is committed. -/
theorem Calm.level {next : Failure → Attempt α} (h : Calm a) :
    Calm (do
      openLevel c
      match ← a.outcome with
      | .ok v =>
        commitLevel c
        pure v
      | .error f => next f) := by
  intro s es x hy hes
  cases yields_level hy with
  | unopened e =>
    obtain ⟨⟨v, hv⟩, -⟩ := hes
    cases hv
  | uncommitted e h₁ =>
    obtain ⟨-, ⟨v, hv⟩, -⟩ := MemoryStore.smooth_append.1 hes.2
    cases hv
  | committed h₁ =>
    obtain ⟨-, hstore⟩ := h h₁ (MemoryStore.smooth_append.1 hes.2).1
    exact ⟨⟨_, rfl⟩, by simpa [MemoryStore.next] using hstore⟩
  | failed h₁ h₂ =>
    obtain ⟨⟨v, hv⟩, -⟩ := h h₁ (MemoryStore.smooth_append.1 hes.2).1
    cases hv

theorem Calm.transaction (h : Calm a) : Calm (transaction c a) := h.level

theorem Calm.retryStep {p : RetryPolicy} (h : Calm a) : Calm (retryStep p c a) := by
  rw [TrafficLens.retryStep]
  cases p.retries <;> rw [retryStepFrom] <;> exact h.level

/-! ## What is done if nothing fails -/

variable {W : α → MemoryStore → List (List Sent) → Prop}

/-- If nothing fails then, outside of all levels, the attempt ends with a value and commits every
transaction that it opens. The value, the store in memory and the statements of the transactions
satisfy `W`. -/
def Performs (c : ConnectionId) (s : MemoryStore) (a : Attempt α)
    (W : α → MemoryStore → List (List Sent) → Prop) : Prop :=
  ∀ ⦃es x⦄, a.Yields es x → s.Smooth es → ∃ v works, x = .ok v ∧ W v (s.after es) works ∧
    ∀ closed, after c ⟨[], closed⟩ es = ⟨[], closed ++ works.map some⟩

theorem Performs.mono {V : α → MemoryStore → List (List Sent) → Prop} (h : Performs c s a W)
    (hWV : ∀ v s' works, W v s' works → V v s' works) : Performs c s a V := by
  intro es x hy hes
  obtain ⟨v, works, hx, hW, hafter⟩ := h hy hes
  exact ⟨v, works, hx, hWV _ _ _ hW, hafter⟩

theorem performs_pure {v : α} (h : W v s []) : Performs c s (pure v : Attempt α) W := by
  rintro es x ⟨rfl, rfl⟩ -
  exact ⟨v, [], rfl, h, by simp⟩

theorem Performs.bind {f : α → Attempt β} {V : β → MemoryStore → List (List Sent) → Prop}
    (ha : Performs c s a W)
    (hf : ∀ v s' works, W v s' works → Performs c s' (f v) fun w s'' works' =>
      V w s'' (works ++ works')) : Performs c s (a >>= f) V := by
  intro es y hy hes
  obtain ⟨e, rfl, h⟩ | ⟨es₁, es₂, v, rfl, h₁, h₂⟩ := yields_bind.1 hy
  · obtain ⟨v, _, hv, -⟩ := ha h hes
    cases hv
  · obtain ⟨hes₁, hes₂⟩ := MemoryStore.smooth_append.1 hes
    obtain ⟨_, works₁, hv, hW, hafter₁⟩ := ha h₁ hes₁
    obtain rfl := Except.ok.inj hv
    obtain ⟨w, works₂, rfl, hV, hafter₂⟩ := hf _ _ _ hW h₂ hes₂
    refine ⟨w, works₁ ++ works₂, rfl, by rwa [MemoryStore.after_append], fun closed => ?_⟩
    rw [after_append, hafter₁, hafter₂, List.map_append, List.append_assoc]

theorem Performs.outcome (h : Performs c s a W) :
    Performs c s a.outcome fun x s' works => ∃ v, x = .ok v ∧ W v s' works := by
  intro es y hy hes
  obtain ⟨x, rfl, hx⟩ := yields_outcome.1 hy
  obtain ⟨v, works, rfl, hW, hafter⟩ := h hx hes
  exact ⟨_, works, rfl, ⟨v, rfl, hW⟩, hafter⟩

theorem performs_freshIds :
    Performs c s freshIds fun _ s' works => s' = s ∧ works = [] := by
  intro es x hy _
  obtain ⟨ids, rfl, rfl⟩ := yields_freshIds.1 hy
  exact ⟨ids, [], rfl, ⟨rfl, rfl⟩, fun closed => by simp [note]⟩

/-- The store in memory answers as the endpoints in it say. -/
theorem performs_askMemory (call : StoreCall) :
    Performs c s (EndpointStore.askMemory call) fun answer s' works =>
      (answer, s') = s.perform call ∧ works = [] := by
  intro es x hy hes
  obtain ⟨reply, rfl, rfl⟩ := yields_askMemory.1 hy
  obtain ⟨rfl, -⟩ := hes
  exact ⟨_, [], rfl, ⟨rfl, rfl⟩, fun closed => by simp [note]⟩

/-- A transaction whose body is calm is committed. -/
theorem performs_transaction {V : α → List Sent → Prop} (hcalm : Calm a) (h : Adds c a V) :
    Performs c s (transaction c a) fun v s' works =>
      s' = s ∧ ∃ work, works = [work] ∧ V v work := by
  intro es x hy hes
  obtain ⟨⟨v, rfl⟩, hstore⟩ := hcalm.transaction hy hes
  obtain ⟨_, work, hv, hV, -, hafter⟩ | ⟨e, he, -⟩ := after_transaction h hy
  · obtain rfl := Except.ok.inj hv
    exact ⟨_, [work], rfl, ⟨hstore, work, rfl, hV⟩, hafter⟩
  · cases he

end Attempt

end TrafficLens
