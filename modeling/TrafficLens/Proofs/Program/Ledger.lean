import TrafficLens.Proofs.Program.Transcript

/-!
# What becomes of statements

A statement that is sent inside a level lasts only if that level and all levels around it are
committed. A `Ledger` reads this off a transcript: it holds the statements of each level that is
open on a connection, and for each transaction that is over the statements that it made last, or
`none` if it made none last. Committing an inner level hands its statements to the level around it,
rolling it back forgets them; a level that cannot be closed by a commit is rolled back by the
connection.

`Attempt.Adds c a W` says of an attempt inside a level that, whatever it is replied, it leaves all
levels around that one alone, and that the statements which it adds satisfy `W` if it succeeds. The
rules for it follow the text of attempts: a retried step adds what its last try added and nothing if
it fails (`Adds.retryStep`), and a transaction commits what its body added or nothing at all
(`after_transaction`).
-/

namespace TrafficLens

variable {α β : Type}

/-- A statement of a tenant that was sent, and its reply. -/
structure Sent where
  tenant : Tenant
  command : Command
  reply : Except DatabaseError command.Answer

/-- The connection that a request is about. -/
def Request.connection? : Request → Option ConnectionId
  | giveBack c | discard c | openLevel c | commitLevel c | rollbackLevel c | abandonLevel c
  | command (.held c) _ _ => some c
  | _ => none

/-- What a connection has done inside levels. -/
structure Ledger where
  /-- The statements of each open level, the innermost first. -/
  levels : List (List Sent) := []
  /-- The statements that each transaction which is over made last, if it was committed. A
  transaction that could not be opened counts. -/
  closed : List (Option (List Sent)) := []

namespace Ledger

/-- A level was to be opened. -/
def openLevel (l : Ledger) : Except DatabaseError Unit → Ledger
  | .ok _ => { l with levels := [] :: l.levels }
  | .error _ =>
    match l.levels with
    | [] => { l with closed := l.closed ++ [none] }
    | _ => l

/-- A statement was sent. Outside of all levels it is not kept. -/
def record (l : Ledger) (s : Sent) : Ledger :=
  match l.levels with
  | [] => l
  | top :: rest => { l with levels := (top ++ [s]) :: rest }

/-- The innermost level was given up. -/
def undo (l : Ledger) : Ledger :=
  match l.levels with
  | [] => l
  | [_] => { levels := [], closed := l.closed ++ [none] }
  | _ :: rest => { l with levels := rest }

/-- The innermost level was to be committed. -/
def commit (l : Ledger) : Except DatabaseError Unit → Ledger
  | .ok _ =>
    match l.levels with
    | [] => l
    | [work] => { levels := [], closed := l.closed ++ [some work] }
    | work :: top :: rest => { l with levels := (top ++ work) :: rest }
  | .error _ => l.undo

/-- The ledger of a connection after an event. -/
def note (c : ConnectionId) (l : Ledger) : Event → Ledger
  | ⟨.openLevel d, reply⟩ => if d = c then l.openLevel reply else l
  | ⟨.commitLevel d, reply⟩ => if d = c then l.commit reply else l
  | ⟨.rollbackLevel d, _⟩ | ⟨.abandonLevel d, _⟩ => if d = c then l.undo else l
  | ⟨.command (.held d) t command, reply⟩ => if d = c then l.record ⟨t, command, reply⟩ else l
  | _ => l

/-- The ledger of a connection after a transcript. -/
def after (c : ConnectionId) (l : Ledger) (es : List Event) : Ledger := es.foldl (note c) l

/-- The statements of the transactions that were committed, one list for each. -/
def committed (l : Ledger) : List (List Sent) := l.closed.filterMap id

variable {c : ConnectionId} {l : Ledger}

@[simp] theorem after_nil : after c l [] = l := rfl

@[simp] theorem after_cons (e : Event) (es : List Event) :
    after c l (e :: es) = after c (note c l e) es := rfl

@[simp] theorem after_append (es₁ es₂ : List Event) :
    after c l (es₁ ++ es₂) = after c (after c l es₁) es₂ :=
  List.foldl_append

@[simp] theorem note_openLevel (reply : Except DatabaseError Unit) :
    note c l ⟨.openLevel c, reply⟩ = l.openLevel reply :=
  if_pos rfl

@[simp] theorem note_commitLevel (reply : Except DatabaseError Unit) :
    note c l ⟨.commitLevel c, reply⟩ = l.commit reply :=
  if_pos rfl

@[simp] theorem note_rollbackLevel (reply : Except DatabaseError Unit) :
    note c l ⟨.rollbackLevel c, reply⟩ = l.undo :=
  if_pos rfl

@[simp] theorem note_command {t : Tenant} {command : Command}
    (reply : Except DatabaseError command.Answer) :
    note c l ⟨.command (.held c) t command, reply⟩ = l.record ⟨t, command, reply⟩ :=
  if_pos rfl

/-- What is not about a connection leaves its ledger alone. -/
theorem note_of_ne {e : Event} (h : e.request.connection? ≠ some c) : note c l e = l := by
  obtain ⟨r, reply⟩ := e
  cases r with
  | openLevel d | commitLevel d | rollbackLevel d | abandonLevel d =>
    exact if_neg fun hd => h (congrArg some hd)
  | command route t command =>
    cases route with
    | free => rfl
    | held d => exact if_neg fun hd => h (congrArg some hd)
  | _ => rfl

theorem after_of_ne {es : List Event} (h : ∀ e ∈ es, e.request.connection? ≠ some c) :
    after c l es = l := by
  induction es with
  | nil => rfl
  | cons e es ih =>
    rw [after_cons, note_of_ne (h e List.mem_cons_self)]
    exact ih fun e he => h e (List.mem_cons_of_mem _ he)

end Ledger

namespace Attempt

open Ledger

variable {c : ConnectionId} {a : Attempt α} {W : α → List Sent → Prop}

/-- Inside a level of the connection, the attempt adds statements to that level only. If it
succeeds then they satisfy `W`. -/
def Adds (c : ConnectionId) (a : Attempt α) (W : α → List Sent → Prop) : Prop :=
  ∀ ⦃es x⦄, a.Yields es x → ∃ work, (∀ v, x = .ok v → W v work) ∧
    ∀ top rest closed, after c ⟨top :: rest, closed⟩ es = ⟨(top ++ work) :: rest, closed⟩

theorem Adds.mono {V : α → List Sent → Prop} (h : Adds c a W)
    (hWV : ∀ v work, W v work → V v work) : Adds c a V := by
  intro es x hy
  obtain ⟨work, hwork, hafter⟩ := h hy
  exact ⟨work, fun v hv => hWV v work (hwork v hv), hafter⟩

/-- An attempt that is not about the connection adds nothing. -/
theorem adds_of_asks (h : Asks (fun r => r.connection? ≠ some c) a) :
    Adds c a fun _ work => work = [] := by
  intro es x hy
  refine ⟨[], fun _ _ => rfl, fun top rest closed => ?_⟩
  rw [after_of_ne (h hy), List.append_nil]

theorem adds_pure (v : α) : Adds c (pure v) fun w work => w = v ∧ work = [] := by
  rintro es x ⟨rfl, rfl⟩
  refine ⟨[], fun w hw => ⟨(Except.ok.inj hw).symm, rfl⟩, fun top rest closed => ?_⟩
  rw [after_nil, List.append_nil]

theorem Adds.bind {f : α → Attempt β} {V : α → β → List Sent → Prop} (ha : Adds c a W)
    (hf : ∀ v, Adds c (f v) (V v)) :
    Adds c (a >>= f) fun w work => ∃ v work₁ work₂, work = work₁ ++ work₂ ∧ W v work₁ ∧
      V v w work₂ := by
  intro es y hy
  obtain ⟨e, rfl, h⟩ | ⟨es₁, es₂, v, rfl, h₁, h₂⟩ := yields_bind.1 hy
  · obtain ⟨work, -, hafter⟩ := ha h
    exact ⟨work, by simp, hafter⟩
  · obtain ⟨work₁, hwork₁, hafter₁⟩ := ha h₁
    obtain ⟨work₂, hwork₂, hafter₂⟩ := hf v h₂
    refine ⟨work₁ ++ work₂, fun w hw => ?_, fun top rest closed => ?_⟩
    · exact ⟨v, work₁, work₂, rfl, hwork₁ v rfl, hwork₂ w hw⟩
    · rw [after_append, hafter₁, hafter₂, List.append_assoc]

/-- A part that may be left out, with a value in its place. -/
theorem Adds.bind_of_isTrue {b : Bool} {v : α} {f : α → Attempt β} {V : α → β → List Sent → Prop}
    (ha : Adds c (if b then pure v else a) W) (hf : ∀ v, Adds c (f v) (V v)) :
    Adds c (if b then f v else a >>= f) fun w work => ∃ v work₁ work₂, work = work₁ ++ work₂ ∧
      W v work₁ ∧ V v w work₂ := by
  cases b
  · exact ha.bind hf
  · exact ha.bind hf

theorem adds_send (t : Tenant) (command : Command) :
    Adds c (send (.held c) t command) fun answer work => work = [⟨t, command, .ok answer⟩] := by
  intro es x hy
  obtain ⟨reply, rfl, rfl⟩ := yields_send.1 hy
  refine ⟨[⟨t, command, reply⟩], fun v hv => ?_, fun top rest closed => ?_⟩
  · cases reply with
    | error e => cases hv
    | ok answer =>
      obtain rfl := Except.ok.inj hv
      rfl
  · rw [after_cons, note_command, after_nil]
    rfl

/-- A level that was opened, after the attempt inside it. -/
theorem Adds.opened (h : Adds c a W) {es : List Event} {x : Except Failure α}
    (hy : a.Yields es x) :
    ∃ work, (∀ v, x = .ok v → W v work) ∧ ∀ levels closed rest,
      after c ⟨levels, closed⟩ (⟨.openLevel c, Except.ok ()⟩ :: (es ++ rest)) =
        after c ⟨work :: levels, closed⟩ rest := by
  obtain ⟨work, hwork, hafter⟩ := h hy
  refine ⟨work, hwork, fun levels closed rest => ?_⟩
  rw [after_cons, note_openLevel, after_append]
  exact congrArg (fun l => after c l rest) (hafter [] levels closed)

/-- A level inside a level adds what its body added if it is committed. If the body fails then the
level is given up, and what follows may add something. -/
theorem Adds.level {next : Failure → Attempt α} (h : Adds c a W)
    (hnext : ∀ f, Adds c (next f) W) :
    Adds c (do
      openLevel c
      match ← a.outcome with
      | .ok v =>
        commitLevel c
        pure v
      | .error f =>
        rollbackLevel c
        next f) W := by
  intro es x hy
  cases yields_level hy with
  | unopened e => exact ⟨[], by simp, fun top rest closed => by simp [Ledger.openLevel]⟩
  | uncommitted e h₁ =>
    obtain ⟨work, -, hafter⟩ := h.opened h₁
    refine ⟨[], by simp, fun top rest closed => ?_⟩
    rw [hafter, after_cons, note_commitLevel, List.append_nil]
    rfl
  | committed h₁ =>
    obtain ⟨work, hwork, hafter⟩ := h.opened h₁
    refine ⟨work, hwork, fun top rest closed => ?_⟩
    rw [hafter, after_cons, note_commitLevel]
    rfl
  | failed h₁ h₂ =>
    obtain ⟨work, -, hafter⟩ := h.opened h₁
    obtain ⟨_, e, rfl, rfl, rfl⟩ | ⟨_, ⟨⟩, _, rfl, rfl, hrest⟩ := yields_rollbackLevel_bind.1 h₂
    · refine ⟨[], by simp, fun top rest closed => ?_⟩
      rw [hafter, after_cons, note_rollbackLevel, List.append_nil]
      rfl
    · obtain ⟨work', hwork', hafter'⟩ := hnext _ hrest
      refine ⟨work', hwork', fun top rest closed => ?_⟩
      rw [hafter, after_cons, note_rollbackLevel]
      exact hafter' top rest closed

theorem adds_throw (f : Failure) : Adds c (throw f : Attempt α) W := by
  rintro es x ⟨rfl, rfl⟩
  exact ⟨[], by simp, fun top rest closed => by simp⟩

theorem Adds.retryStepFrom {p : RetryPolicy} (h : Adds c a W) (left failures : Nat) :
    Adds c (retryStepFrom p c a left failures) W := by
  induction left generalizing failures with
  | zero =>
    rw [TrafficLens.retryStepFrom]
    exact h.level fun f => adds_throw f
  | succ left ih =>
    rw [TrafficLens.retryStepFrom]
    refine h.level fun f => ?_
    dsimp only
    split
    · have hpause : Adds c (pause (p.delayBound failures)) fun _ work => work = [] :=
        adds_of_asks (asks_ask (by simp [Request.connection?]))
      refine (hpause.bind fun _ => ih (failures + 1)).mono ?_
      rintro v work ⟨⟨⟩, work₁, work₂, rfl, rfl, hwork⟩
      exact hwork
    · exact adds_throw f

/-- A retried step adds what its last try added. -/
theorem Adds.retryStep {p : RetryPolicy} (h : Adds c a W) : Adds c (retryStep p c a) W :=
  h.retryStepFrom p.retries 0

end Attempt

/-- A transaction commits what its body added, or nothing. -/
theorem Ledger.after_transaction {c : ConnectionId} {body : Attempt α}
    {W : α → List Sent → Prop} (h : body.Adds c W) {es : List Event} {x : Except Failure α}
    (hy : (transaction c body).Yields es x) :
    (∃ v work, x = .ok v ∧ W v work ∧ es.getLast? = some ⟨.commitLevel c, Except.ok ()⟩ ∧
      ∀ closed, after c ⟨[], closed⟩ es = ⟨[], closed ++ [some work]⟩) ∨
    (∃ e, x = .error e ∧ ∀ closed, after c ⟨[], closed⟩ es = ⟨[], closed ++ [none]⟩) := by
  cases yields_level hy with
  | unopened e => exact .inr ⟨_, rfl, fun closed => by simp [Ledger.openLevel]⟩
  | uncommitted e h₁ =>
    obtain ⟨work, -, hafter⟩ := h.opened h₁
    refine .inr ⟨_, rfl, fun closed => ?_⟩
    rw [hafter, after_cons, note_commitLevel]
    rfl
  | committed h₁ =>
    obtain ⟨work, hwork, hafter⟩ := h.opened h₁
    refine .inl ⟨_, work, rfl, hwork _ rfl, ?_, fun closed => ?_⟩
    · rw [← List.cons_append, List.getLast?_concat]
    · rw [hafter, after_cons, note_commitLevel]
      rfl
  | failed h₁ h₂ =>
    obtain ⟨work, -, hafter⟩ := h.opened h₁
    obtain ⟨es₃, es₄, _, rfl, h₃, ⟨rfl, rfl⟩⟩ := Attempt.yields_outcome_bind.1 h₂
    obtain ⟨reply, rfl, -⟩ := yields_rollbackLevel.1 h₃
    refine .inr ⟨_, rfl, fun closed => ?_⟩
    rw [hafter, List.append_nil, after_cons, note_rollbackLevel]
    rfl

/-! ## Outside of all levels -/

namespace Attempt

open Ledger

variable {c : ConnectionId} {a : Attempt α} {W : List Sent → Prop}

/-- Outside of all levels, the attempt makes some transactions and leaves no level open. What a
transaction commits satisfies `W`. -/
def Closes (c : ConnectionId) (a : Attempt α) (W : List Sent → Prop) : Prop :=
  ∀ ⦃es x⦄, a.Yields es x → ∃ outcomes, (∀ work, some work ∈ outcomes → W work) ∧
    ∀ closed, after c ⟨[], closed⟩ es = ⟨[], closed ++ outcomes⟩

theorem closes_of_asks (h : Asks (fun r => r.connection? ≠ some c) a) : Closes c a W := by
  intro es x hy
  refine ⟨[], by simp, fun closed => ?_⟩
  rw [after_of_ne (h hy), List.append_nil]

theorem closes_throw (f : Failure) : Closes c (throw f : Attempt α) W :=
  closes_of_asks (asks_throw f)

theorem Closes.bind {f : α → Attempt β} (ha : Closes c a W) (hf : ∀ v, Closes c (f v) W) :
    Closes c (a >>= f) W := by
  intro es y hy
  obtain ⟨e, rfl, h⟩ | ⟨es₁, es₂, v, rfl, h₁, h₂⟩ := yields_bind.1 hy
  · exact ha h
  · obtain ⟨outcomes₁, hW₁, hafter₁⟩ := ha h₁
    obtain ⟨outcomes₂, hW₂, hafter₂⟩ := hf v h₂
    refine ⟨outcomes₁ ++ outcomes₂, fun work hwork => ?_, fun closed => ?_⟩
    · exact (List.mem_append.1 hwork).elim (hW₁ work) (hW₂ work)
    · rw [after_append, hafter₁, hafter₂, List.append_assoc]

theorem closes_transaction {V : α → List Sent → Prop} (h : Adds c a V)
    (hV : ∀ v work, V v work → W work) : Closes c (transaction c a) W := by
  intro es x hy
  rcases after_transaction h hy with ⟨v, work, -, hwork, -, hafter⟩ | ⟨e, -, hafter⟩
  · exact ⟨[some work], by simpa using hV v work hwork, hafter⟩
  · exact ⟨[none], by simp, hafter⟩

/-- A level outside of all levels is a transaction. -/
theorem closes_level {V : α → List Sent → Prop} {next : Failure → Attempt α} (h : Adds c a V)
    (hV : ∀ v work, V v work → W work) (hnext : ∀ f, Closes c (next f) W) :
    Closes c (do
      openLevel c
      match ← a.outcome with
      | .ok v =>
        commitLevel c
        pure v
      | .error f =>
        rollbackLevel c
        next f) W := by
  intro es x hy
  cases yields_level hy with
  | unopened e => exact ⟨[none], by simp, fun closed => by simp [Ledger.openLevel]⟩
  | uncommitted e h₁ =>
    obtain ⟨work, -, hafter⟩ := h.opened h₁
    refine ⟨[none], by simp, fun closed => ?_⟩
    rw [hafter, after_cons, note_commitLevel]
    rfl
  | committed h₁ =>
    obtain ⟨work, hwork, hafter⟩ := h.opened h₁
    refine ⟨[some work], by simpa using hV _ work (hwork _ rfl), fun closed => ?_⟩
    rw [hafter, after_cons, note_commitLevel]
    rfl
  | failed h₁ h₂ =>
    obtain ⟨work, -, hafter⟩ := h.opened h₁
    obtain ⟨_, e, rfl, rfl, rfl⟩ | ⟨_, ⟨⟩, _, rfl, rfl, hrest⟩ := yields_rollbackLevel_bind.1 h₂
    · refine ⟨[none], by simp, fun closed => ?_⟩
      rw [hafter, after_cons, note_rollbackLevel]
      rfl
    · obtain ⟨outcomes, hW, hafter'⟩ := hnext _ hrest
      refine ⟨none :: outcomes, by simpa using hW, fun closed => ?_⟩
      rw [hafter, after_cons, note_rollbackLevel]
      exact (hafter' (closed ++ [none])).trans (by simp)

/-- Outside of all levels, each try of a step is a transaction. -/
theorem closes_retryStep {V : α → List Sent → Prop} {p : RetryPolicy} (h : Adds c a V)
    (hV : ∀ v work, V v work → W work) : Closes c (retryStep p c a) W := by
  have hfrom : ∀ left failures, Closes c (retryStepFrom p c a left failures) W := by
    intro left
    induction left with
    | zero =>
      intro failures
      rw [retryStepFrom]
      exact closes_level h hV fun f => closes_throw f
    | succ left ih =>
      intro failures
      rw [retryStepFrom]
      refine closes_level h hV fun f => ?_
      dsimp only
      split
      · have hpause : Closes c (pause (p.delayBound failures)) W :=
          closes_of_asks (asks_ask (by simp [Request.connection?]))
        exact hpause.bind fun _ => ih (failures + 1)
      · exact closes_throw f
  exact hfrom p.retries 0

end Attempt

end TrafficLens
