import TrafficLens.Proofs.Service.Announcement
import TrafficLens.Proofs.Service.Endurance

/-!
# Connections that break

A statement over a connection can find it lost (`Event.Loses`). An attempt is *candid* if it says so:
whenever the last statement of its transcript found the connection lost, that is how the attempt fails
(`Attempt.Candid`). A step that is tried again is candid whatever it does, for its levels are closed
by statements that must succeed (`candid_retryStep`).

A transaction is not. If its body fails then the failure is reported, and not that of the rollback
that follows. `Attempt.Discloses` says that this is the only way in which a loss is hidden: the
statement is the rollback, nothing is sent after it, and the attempt fails with something else
(`Masked`). Processing a trace discloses all other losses (`Service.discloses_process`).
-/

namespace TrafficLens

open Attempt

variable {α β : Type} {c : ConnectionId}

/-! ## Statements over a connection -/

/-- The request sends a statement over the connection. -/
def Request.StatementOn (c : ConnectionId) : Request → Prop
  | openLevel d | commitLevel d | rollbackLevel d | command (.held d) _ _ => d = c
  | _ => False

instance (c : ConnectionId) (r : Request) : Decidable (r.StatementOn c) := by
  unfold Request.StatementOn
  split <;> infer_instance

theorem Request.StatementOn.connection? {r : Request} (h : r.StatementOn c) :
    r.connection? = some c := by
  unfold Request.StatementOn at h
  split at h
  · exact congrArg some h
  · exact congrArg some h
  · exact congrArg some h
  · exact congrArg some h
  · exact h.elim

/-- A statement over the connection found it lost. -/
def Event.Loses (c : ConnectionId) (e : Event) : Prop :=
  e.request.StatementOn c ∧ ∃ f ∈ e.failure?, f.losesConnection = true

instance (c : ConnectionId) (e : Event) : Decidable (e.Loses c) :=
  inferInstanceAs (Decidable (_ ∧ ∃ f ∈ e.failure?, f.losesConnection = true))

theorem Event.Loses.not_holdsConnection {e : Event} {f : Failure} (h : e.Loses c)
    (hf : e.failure? = some f) : ¬ HoldsConnection (.error f : Except Failure α) := by
  obtain ⟨-, g, hg, hlost⟩ := h
  obtain rfl := Option.some.inj (hf.symm.trans hg)
  simp [holdsConnection_error, hlost]

theorem Event.not_loses_of_failure? {e : Event} (h : e.failure? = none) : ¬ e.Loses c := by
  rintro ⟨-, f, hf, -⟩
  simp [h] at hf

/-- A statement found the connection lost, and so did all that were sent after it. -/
def Breaks (c : ConnectionId) (x : Event) (after : List Event) : Prop :=
  x.Loses c ∧ ∀ y ∈ after, y.request.StatementOn c → y.Loses c

/-- The connection broke and has answered no statement since. -/
def EndsLost (c : ConnectionId) (es : List Event) : Prop :=
  ∃ before x after, es = before ++ x :: after ∧ Breaks c x after

theorem Breaks.endsLost {x : Event} {after : List Event} (h : Breaks c x after)
    (before : List Event) : EndsLost c (before ++ x :: after) :=
  ⟨before, x, after, rfl, h⟩

theorem not_endsLost_of_forall {es : List Event} (h : ∀ e ∈ es, ¬ e.request.StatementOn c) :
    ¬ EndsLost c es := by
  rintro ⟨before, x, after, rfl, hx, -⟩
  exact h x (by simp) hx.1

theorem loses_of_endsLost {e : Event} (h : EndsLost c [e]) : e.Loses c := by
  obtain ⟨before, x, after, hes, hx, -⟩ := h
  obtain rfl : x = e := List.mem_singleton.1 (hes ▸ by simp)
  exact hx

/-- An event of two transcripts is one of the first or one of the second. -/
theorem append_cons_eq_append {before after es₁ es₂ : List Event} {x : Event}
    (h : before ++ x :: after = es₁ ++ es₂) :
    (∃ after', es₁ = before ++ x :: after' ∧ after = after' ++ es₂) ∨
      ∃ before', before = es₁ ++ before' ∧ es₂ = before' ++ x :: after := by
  rcases List.append_eq_append_iff.1 h with ⟨zs, rfl, hrest⟩ | ⟨zs, rfl, rfl⟩
  · cases zs with
    | nil => exact .inr ⟨[], by simp, hrest.symm⟩
    | cons z zs =>
      obtain ⟨rfl, rfl⟩ := List.cons.inj hrest
      exact .inl ⟨zs, rfl, rfl⟩
  · exact .inr ⟨zs, rfl, rfl⟩

/-- What ends lost does so in its first part, with nothing answered in the second, or in the second
part. -/
theorem endsLost_append {es₁ es₂ : List Event} (h : EndsLost c (es₁ ++ es₂)) :
    (EndsLost c es₁ ∧ ∀ y ∈ es₂, y.request.StatementOn c → y.Loses c) ∨ EndsLost c es₂ := by
  obtain ⟨before, x, after, hes, hx, hafter⟩ := h
  rcases append_cons_eq_append hes.symm with ⟨after', rfl, rfl⟩ | ⟨before', rfl, rfl⟩
  · obtain ⟨hafter', hes₂⟩ := List.forall_mem_append.1 hafter
    exact .inl ⟨⟨before, x, after', rfl, hx, hafter'⟩, hes₂⟩
  · exact .inr ⟨before', x, after, rfl, hx, hafter⟩

/-- A last statement that was answered rules out that the connection broke before. -/
theorem loses_of_endsLost_concat {es : List Event} {e : Event} (h : EndsLost c (es ++ [e]))
    (hon : e.request.StatementOn c) : e.Loses c := by
  rcases endsLost_append h with ⟨-, hlast⟩ | hlast
  · exact hlast e List.mem_cons_self hon
  · exact loses_of_endsLost hlast

/-! ## Attempts that say that the connection is lost -/

namespace Attempt

/-- If the connection broke then that is how the attempt fails. -/
def Candid (c : ConnectionId) (a : Attempt α) : Prop :=
  ∀ ⦃es x⦄, a.Yields es x → EndsLost c es → ¬ HoldsConnection x

variable {a : Attempt α}

theorem candid_of_asks (h : Asks (fun r => ¬ r.StatementOn c) a) : Candid c a :=
  fun _ _ hy hlost => (not_endsLost_of_forall (h hy) hlost).elim

theorem candid_pure (v : α) : Candid c (pure v) := candid_of_asks (asks_pure v)

theorem Candid.bind {f : α → Attempt β} (ha : Candid c a) (hf : ∀ v, Candid c (f v)) :
    Candid c (a >>= f) := by
  intro es y hy hlost
  obtain ⟨e, rfl, h⟩ | ⟨es₁, es₂, v, rfl, h₁, h₂⟩ := yields_bind.1 hy
  · have hlost := ha h hlost
    rwa [holdsConnection_error] at hlost ⊢
  · rcases endsLost_append hlost with ⟨hlost, -⟩ | hlost
    · exact (ha h₁ hlost (holdsConnection_ok v)).elim
    · exact hf v h₂ hlost

/-- A part that may be left out, with a value in its place. -/
theorem Candid.bind_of_isTrue {b : Bool} {f : α → Attempt β} (ha : Candid c a) (v : α)
    (hf : ∀ v, Candid c (f v)) : Candid c (if b then f v else a >>= f) := by
  cases b
  · exact ha.bind hf
  · exact hf v

theorem candid_send (t : Tenant) (command : Command) : Candid c (send (.held c) t command) := by
  intro es x hy hlost
  obtain ⟨reply, rfl, rfl⟩ := yields_send.1 hy
  cases reply with
  | ok v => exact (Event.not_loses_of_failure? rfl (loses_of_endsLost hlost)).elim
  | error e => exact (loses_of_endsLost hlost).not_holdsConnection rfl

/-- A rollback whose failure is reported speaks also for the statements before it. -/
theorem candid_rollbackLevel_bind {next : Unit → Attempt α} (hnext : ∀ v, Candid c (next v))
    {before es : List Event} {x : Except Failure α} (hy : (rollbackLevel c >>= next).Yields es x)
    (hlost : EndsLost c (before ++ es)) : ¬ HoldsConnection x := by
  obtain ⟨_, e, rfl, rfl, rfl⟩ | ⟨_, ⟨⟩, rest, rfl, rfl, hrest⟩ := yields_rollbackLevel_bind.1 hy
  · exact (loses_of_endsLost_concat hlost rfl).not_holdsConnection rfl
  · rw [List.append_cons] at hlost
    rcases endsLost_append hlost with ⟨hlost, -⟩ | hlost
    · exact (Event.not_loses_of_failure? rfl (loses_of_endsLost_concat hlost rfl)).elim
    · exact hnext () hrest hlost

/-- A level is candid, whatever is done in it, if its rollback is reported. -/
theorem candid_level {body : Attempt α} {next : Failure → Unit → Attempt α}
    (hnext : ∀ f v, Candid c (next f v)) : Candid c (do
      openLevel c
      match ← body.outcome with
      | .ok v =>
        commitLevel c
        pure v
      | .error f => rollbackLevel c >>= next f) := by
  intro es x hy hlost
  cases yields_level hy with
  | unopened e => exact (loses_of_endsLost hlost).not_holdsConnection rfl
  | uncommitted e _ =>
    rw [← List.cons_append] at hlost
    exact (loses_of_endsLost_concat hlost rfl).not_holdsConnection rfl
  | committed _ =>
    rw [← List.cons_append] at hlost
    exact (Event.not_loses_of_failure? rfl (loses_of_endsLost_concat hlost rfl)).elim
  | failed _ hrest =>
    rw [← List.cons_append] at hlost
    exact candid_rollbackLevel_bind (hnext _) hrest hlost

/-- A step that is tried again is candid, whatever it does. -/
theorem candid_retryStep (p : RetryPolicy) (step : Attempt α) : Candid c (retryStep p c step) := by
  have hfrom : ∀ left failures, Candid c (retryStepFrom p c step left failures) := by
    intro left
    induction left with
    | zero =>
      intro failures
      rw [retryStepFrom]
      exact candid_level fun f _ => candid_of_asks (asks_throw f)
    | succ left ih =>
      intro failures
      rw [retryStepFrom]
      refine candid_level fun f _ => ?_
      dsimp only
      split
      · exact (candid_of_asks (asks_ask (r := .wait _) not_false)).bind fun _ => ih (failures + 1)
      · exact candid_of_asks (asks_throw f)
  exact hfrom p.retries 0

end Attempt

/-! ## Attempts that hide the loss of a connection at their end -/

/-- A statement is the rollback of what failed for another reason, and nothing is sent after it. -/
structure Masked (c : ConnectionId) (x : Event) (after : List Event) (outcome : Except Failure α) :
    Prop where
  rollback : x.request = .rollbackLevel c
  last : ∀ y ∈ after, ¬ y.request.StatementOn c
  other : ∃ f, outcome = .error f ∧ f.losesConnection = false

namespace Attempt

variable {a : Attempt α}

/-- If the connection broke then that is how the attempt fails, unless it broke under a last
rollback. -/
def Discloses (c : ConnectionId) (a : Attempt α) : Prop :=
  ∀ ⦃before x after outcome⦄, a.Yields (before ++ x :: after) outcome → Breaks c x after →
    HoldsConnection outcome → Masked c x after outcome

theorem Candid.discloses (h : Candid c a) : Discloses c a :=
  fun before _ _ _ hy hbreaks hholds => (h hy (hbreaks.endsLost before) hholds).elim

theorem discloses_pure (v : α) : Discloses c (pure v) := (candid_pure v).discloses

theorem Discloses.bind {f : α → Attempt β} (ha : Discloses c a) (hf : ∀ v, Discloses c (f v)) :
    Discloses c (a >>= f) := by
  intro before x after y hy hbreaks hholds
  obtain ⟨e, rfl, h⟩ | ⟨es₁, es₂, v, hes, h₁, h₂⟩ := yields_bind.1 hy
  · have hmasked := ha h hbreaks (holdsConnection_error.2 (holdsConnection_error.1 hholds))
    exact ⟨hmasked.rollback, hmasked.last, e, rfl, holdsConnection_error.1 hholds⟩
  · rcases append_cons_eq_append hes with ⟨after', rfl, rfl⟩ | ⟨before', rfl, rfl⟩
    · -- the first part succeeded, so nothing broke in it
      have hbreaks' : Breaks c x after' :=
        ⟨hbreaks.1, (List.forall_mem_append.1 hbreaks.2).1⟩
      obtain ⟨_, hfailed, -⟩ := (ha h₁ hbreaks' (holdsConnection_ok v)).other
      cases hfailed
    · exact hf v h₂ hbreaks hholds

/-- **What a transaction hides.** If the connection broke in a transaction with a candid body and the
transaction does not fail with that, then it broke under the rollback at its end. -/
theorem discloses_transaction (ha : Candid c a) : Discloses c (transaction c a) := by
  intro before x after outcome hy hbreaks hholds
  have hlost := hbreaks.endsLost before
  generalize hes : before ++ x :: after = es at hy hlost
  cases yields_level hy with
  | unopened e => exact ((loses_of_endsLost hlost).not_holdsConnection rfl hholds).elim
  | uncommitted e _ =>
    rw [← List.cons_append] at hlost
    exact ((loses_of_endsLost_concat hlost rfl).not_holdsConnection rfl hholds).elim
  | committed _ =>
    rw [← List.cons_append] at hlost
    exact (Event.not_loses_of_failure? rfl (loses_of_endsLost_concat hlost rfl)).elim
  | @failed inside rest f _ hbody hrest =>
    obtain ⟨_, _, _, rfl, hrollback, hthrow⟩ := yields_outcome_bind.1 hrest
    obtain ⟨rfl, rfl⟩ := yields_throw.1 hthrow
    obtain ⟨reply, rfl, -⟩ := yields_rollbackLevel.1 hrollback
    rw [List.append_nil, ← List.cons_append] at hes
    rcases append_cons_eq_append hes with ⟨after', hbegin, rfl⟩ | ⟨before', -, hend⟩
    · -- it broke before the rollback, and then the body fails with that
      have hbreaks' : Breaks c x after' := ⟨hbreaks.1, (List.forall_mem_append.1 hbreaks.2).1⟩
      have hinside : EndsLost c ([_] ++ inside) := hbegin ▸ hbreaks'.endsLost before
      rcases endsLost_append hinside with ⟨hopen, -⟩ | hinside
      · exact (Event.not_loses_of_failure? rfl (loses_of_endsLost hopen)).elim
      · have hlose := ha hbody hinside
        rw [holdsConnection_error] at hlose hholds
        exact (hlose hholds).elim
    · obtain ⟨rfl, hlast⟩ | ⟨_, -, hnil⟩ := List.cons_eq_append_iff.1 hend
      · obtain ⟨rfl, rfl⟩ := List.cons.inj hlast
        exact ⟨rfl, by simp, f, rfl, holdsConnection_error.1 hholds⟩
      · simp at hnil

end Attempt

/-! ## Processing a trace -/

theorem Resolver.candid_resolve (r : Resolver) (t : Tenant) (trace : Trace) :
    Candid c (r.resolve t trace) :=
  candid_of_asks ((r.asks_resolve t trace).mono fun _ h hon => h hon.connection?)

namespace Service

variable (s : Service) (c : ConnectionId) {t : Tenant}

theorem candid_step (command : Command) : Candid c (s.step c t command) := candid_retryStep _ _

theorem candid_loadUploaded (e : Endpoint) : Candid c (loadUploaded c t e) := by
  unfold loadUploaded
  cases e.documentName with
  | none => exact candid_pure none
  | some name =>
    by_cases huploaded : e.hasUploadedDocument
    · simp only [huploaded]
      exact candid_send t _
    · simp only [huploaded]
      exact candid_pure none

theorem candid_persist (trace : Trace) (write : TraceWrite) (fields : List Field)
    (alerts : List Alert) (update : EndpointUpdate) :
    Candid c (s.persist c t trace write fields alerts update) :=
  (s.candid_step c _).bind fun _ =>
    (candid_retryStep _ _).bind_of_isTrue () fun _ =>
      (candid_retryStep _ _).bind_of_isTrue 0 fun n =>
        (s.candid_step c _).bind fun _ => candid_pure n

theorem candid_analyzeLocked (endpoint : Endpoint) (trace : Trace) (isNew : Bool)
    (write : TraceWrite) (document : Option Json) :
    Candid c (s.analyzeLocked c t endpoint trace isNew write document) := by
  have hids : Candid c freshIds := candid_of_asks (asks_ask not_false)
  exact (s.candid_step c _).bind fun _ => (candid_send t _).bind fun _ =>
    hids.bind fun _ => hids.bind fun _ =>
      (s.candid_persist c trace write _ _ _).bind fun _ => candid_pure _

theorem discloses_analyze (endpoint : Endpoint) (trace : Trace) (isNew : Bool)
    (write : TraceWrite) : Discloses c (s.analyze c t endpoint trace isNew write) :=
  (candid_loadUploaded c _).discloses.bind fun document =>
    discloses_transaction (s.candid_analyzeLocked c _ trace isNew write document)

/-- **What processing a trace hides.** If the connection broke while a trace was processed and the
outcome does not say so, then it broke under the rollback of an analysis that failed for another
reason. -/
theorem discloses_process (trace : Trace) : Discloses c (s.process c t trace) := by
  refine (s.resolver.candid_resolve t _).discloses.bind fun x => ?_
  rcases x with ⟨endpoint, isNew⟩ | _ | _
  · exact (s.discloses_analyze c endpoint _ isNew .insert).bind fun _ => discloses_pure _
  · exact discloses_pure _
  · exact (s.candid_step c _).discloses.bind fun _ => discloses_pure _

end Service

end TrafficLens
