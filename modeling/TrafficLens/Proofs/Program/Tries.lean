import Mathlib.Data.List.Basic
import TrafficLens.Proofs.Program.Clerk

/-!
# How often something is tried

A query that needs no level and a step inside a level are tried again by one law
(`Tries.Lawful`): the action is run until an outcome is final or the attempts are used up, and the
last outcome is what is answered. So in every sequence of outcomes the number of runs is the least
of the number of attempts and the place of the first final outcome (`tries_lawful`).

The transcript of tries is taken apart into `Move`s: the runs of the action, and the requests that
are made around them. `QueryTries` and `StepTries` list all ways in which the moves can go, one
constructor for each end of a try; everything else is shown by induction on them. The levels that
the tries of a step open are counted over the requests around the runs, so levels that the step
opens itself do not count.
-/

namespace TrafficLens

variable {α : Type}

/-! ## Moves -/

/-- Is the action run again after this outcome, if attempts are left? -/
def isRetried : Except Failure α → Bool
  | .error f => f.isTransient
  | .ok _ => false

/-- A part of the transcript of tries. -/
inductive Move (α : Type) where
  /-- The action was run. -/
  | ran (events : List Event) (outcome : Except Failure α)
  /-- Something was asked around the runs. -/
  | asked (event : Event)

namespace Move

/-- The transcript of a move. -/
def events : Move α → List Event
  | ran es _ => es
  | asked e => [e]

/-- The outcome of a run. -/
def outcome? : Move α → Option (Except Failure α)
  | ran _ o => some o
  | asked _ => none

/-- What was asked around the runs. -/
def asked? : Move α → Option Event
  | ran .. => none
  | asked e => some e

/-- A run is one of the action. -/
def IsOf (action : Attempt α) : Move α → Prop
  | ran es o => action.Yields es o
  | asked _ => True

end Move

/-- The error with which a level could not be opened or closed. -/
def Event.levelError? : Event → Option DatabaseError
  | ⟨.openLevel _, .error e⟩ | ⟨.commitLevel _, .error e⟩ | ⟨.rollbackLevel _, .error e⟩ => some e
  | _ => none

/-- The number of open levels of a connection after an event. A level that could not be closed stays
open. -/
def levelsAfter (c : ConnectionId) (n : Nat) : Event → Nat
  | ⟨.openLevel d, .ok _⟩ => if d = c then n + 1 else n
  | ⟨.commitLevel d, .ok _⟩ | ⟨.rollbackLevel d, .ok _⟩ => if d = c then n - 1 else n
  | _ => n

/-- The numbers of open levels of a connection before, between and after some events. -/
def levelCounts (c : ConnectionId) (es : List Event) : List Nat := es.scanl (levelsAfter c) 0

/-- A request that the tries of a step make around its runs. -/
def Request.IsAroundStep (c : ConnectionId) : Request → Prop
  | openLevel d | commitLevel d | rollbackLevel d => d = c
  | wait _ => True
  | _ => False

/-- A request that the tries of a query make around its runs. -/
def Request.IsWait : Request → Prop
  | wait _ => True
  | _ => False

namespace Tries

/-- The transcript of some moves. -/
def transcript (moves : List (Move α)) : List Event := moves.flatMap Move.events

/-- The outcomes of the runs, in their order. -/
def outcomes (moves : List (Move α)) : List (Except Failure α) := moves.filterMap Move.outcome?

/-- The events around the runs. -/
def around (moves : List (Move α)) : List Event := moves.filterMap Move.asked?

variable {moves : List (Move α)}

@[simp] theorem transcript_nil : transcript ([] : List (Move α)) = [] := rfl

@[simp] theorem transcript_cons (m : Move α) :
    transcript (m :: moves) = m.events ++ transcript moves :=
  List.flatMap_cons

@[simp] theorem outcomes_ran (es : List Event) (o : Except Failure α) :
    outcomes (.ran es o :: moves) = o :: outcomes moves := rfl

@[simp] theorem outcomes_asked (e : Event) : outcomes (.asked e :: moves) = outcomes moves := rfl

@[simp] theorem around_nil : around ([] : List (Move α)) = [] := rfl

@[simp] theorem around_ran (es : List Event) (o : Except Failure α) :
    around (.ran es o :: moves) = around moves := rfl

@[simp] theorem around_asked (e : Event) : around (.asked e :: moves) = e :: around moves := rfl

theorem mem_transcript_of_mem_around {e : Event} (h : e ∈ around moves) : e ∈ transcript moves := by
  obtain ⟨m, hm, he⟩ := List.mem_filterMap.1 h
  cases m with
  | ran es o => cases he
  | asked e' =>
    obtain rfl := Option.some.inj he
    exact List.mem_flatMap.2 ⟨_, hm, List.mem_singleton_self _⟩

/-! ## The law -/

/-- The first outcome of a sequence after which nothing is tried again has this place. -/
def FirstFinal (sequence : Nat → Except Failure α) (k : Nat) : Prop :=
  isRetried (sequence k) = false ∧ ∀ i < k, isRetried (sequence i) = true

/-- The runs had some outcomes, and the last one was answered. Of every sequence that begins with
these outcomes, the runs reach up to the first final one, and no further than the attempts. -/
structure Lawful (attempts : Nat) (runs : List (Except Failure α)) (x : Except Failure α) :
    Prop where
  answer : runs.getLast? = some x
  count : ∀ sequence : Nat → Except Failure α, (∀ i o, runs[i]? = some o → sequence i = o) →
    (∀ k, FirstFinal sequence k → runs.length = min (k + 1) attempts) ∧
      ((∀ i, isRetried (sequence i) = true) → runs.length = attempts)

/-- The last run that is allowed, or one with a final outcome. -/
theorem Lawful.single {attempts : Nat} {x : Except Failure α} (hpos : 0 < attempts)
    (h : isRetried x = false ∨ attempts = 1) : Lawful attempts [x] x where
  answer := rfl
  count sequence hsequence := by
    have hx : sequence 0 = x := hsequence 0 x rfl
    rcases h with h | rfl
    · rw [← hx] at h
      refine ⟨fun k hk => ?_, fun hall => ?_⟩
      · cases k with
        | zero => exact (Nat.min_eq_left hpos).symm
        | succ k => exact absurd (hk.2 0 (Nat.succ_pos k)) (by rw [h]; exact Bool.false_ne_true)
      · exact absurd (hall 0) (by rw [h]; exact Bool.false_ne_true)
    · exact ⟨fun k _ => (Nat.min_eq_right (Nat.succ_pos k)).symm, fun _ => rfl⟩

/-- A run with an outcome after which is tried again. -/
theorem Lawful.cons {attempts : Nat} {o x : Except Failure α} {runs : List (Except Failure α)}
    (ho : isRetried o = true) (h : Lawful attempts runs x) :
    Lawful (attempts + 1) (o :: runs) x where
  answer := by rw [List.getLast?_cons, h.answer, Option.getD_some]
  count sequence hsequence := by
    have hfirst : sequence 0 = o := hsequence 0 o rfl
    obtain ⟨hfinal, hall⟩ :=
      h.count (fun i => sequence (i + 1)) fun i o' hi => hsequence (i + 1) o' hi
    constructor
    · rintro k ⟨hk, hbefore⟩
      cases k with
      | zero =>
        rw [hfirst, ho] at hk
        cases hk
      | succ k =>
        have hrest := hfinal k ⟨hk, fun i hi => hbefore (i + 1) (by omega)⟩
        rw [List.length_cons, hrest]
        omega
    · intro hretried
      rw [List.length_cons, hall fun i => hretried (i + 1)]

/-! ## Tries of a query -/

/-- The ways in which a query is tried, with so many attempts left after the first. -/
inductive QueryTries (query : Attempt α) : Nat → List (Move α) → Except Failure α → Prop
  | final {left : Nat} {es : List Event} {x : Except Failure α} (h : query.Yields es x)
    (hx : isRetried x = false ∨ left = 0) : QueryTries query left [.ran es x] x
  | again {left : Nat} {es : List Event} {f : Failure} {moves : List (Move α)}
    {x : Except Failure α} (millis : Nat) (h : query.Yields es (.error f))
    (hf : f.isTransient = true) (hrest : QueryTries query left moves x) :
    QueryTries query (left + 1) (.ran es (.error f) :: .asked ⟨.wait millis, ()⟩ :: moves) x

theorem queryTries_of_yields {p : RetryPolicy} {query : Attempt α} {left failures : Nat}
    {es : List Event} {x : Except Failure α}
    (h : Program.Yields (p.retryFrom (fun millis => Program.ask (.wait millis)) query.run left
      failures) es x) :
    ∃ moves, es = transcript moves ∧ QueryTries query left moves x := by
  induction left generalizing failures es with
  | zero => exact ⟨[.ran es x], (List.append_nil es).symm, .final h (.inr rfl)⟩
  | succ left ih =>
    obtain ⟨es₁, es₂, y, rfl, h₁, h₂⟩ := Program.yields_andThen.1 h
    cases y with
    | ok v =>
      obtain ⟨rfl, rfl⟩ := h₂
      exact ⟨[.ran es₁ (.ok v)], rfl, .final h₁ (.inl rfl)⟩
    | error f =>
      dsimp only at h₂
      split at h₂
      · next hf =>
        obtain ⟨_, es₃, -, rfl, ⟨⟨⟩, _, rfl, rfl, -⟩, h₃⟩ := Program.yields_andThen.1 h₂
        obtain ⟨moves, rfl, hmoves⟩ := ih h₃
        exact ⟨_, rfl, .again _ h₁ hf hmoves⟩
      · next hf =>
        obtain ⟨rfl, rfl⟩ := h₂
        exact ⟨[.ran es₁ (.error f)], rfl, .final h₁ (.inl (Bool.not_eq_true _ ▸ hf))⟩

namespace QueryTries

variable {query : Attempt α} {left : Nat} {moves : List (Move α)} {x : Except Failure α}

theorem lawful (h : QueryTries query left moves x) : Lawful (left + 1) (outcomes moves) x := by
  induction h with
  | final h hx => exact .single (Nat.succ_pos _) (hx.imp_right fun hleft => by rw [hleft])
  | again millis h hf hrest ih => exact ih.cons hf

theorem isOf (h : QueryTries query left moves x) : ∀ m ∈ moves, m.IsOf query := by
  induction h with
  | final h hx => simpa [Move.IsOf] using h
  | again millis h hf hrest ih => simpa [Move.IsOf] using ⟨h, ih⟩

theorem isWait (h : QueryTries query left moves x) :
    ∀ e ∈ around moves, e.request.IsWait := by
  induction h with
  | final h hx => simp
  | again millis h hf hrest ih => simpa [Request.IsWait] using ih

end QueryTries

/-! ## Tries of a step -/

/-- The ways in which a step is tried inside levels of a connection, with so many attempts left
after the first. -/
inductive StepTries (c : ConnectionId) (step : Attempt α) :
    Nat → List (Move α) → Except Failure α → Prop
  | unopened {left : Nat} (e : DatabaseError) :
    StepTries c step left [.asked ⟨.openLevel c, Except.error e⟩] (.error (.database e))
  | uncommitted {left : Nat} {es : List Event} {v : α} (e : DatabaseError)
    (h : step.Yields es (.ok v)) :
    StepTries c step left
      [.asked ⟨.openLevel c, Except.ok ()⟩, .ran es (.ok v),
        .asked ⟨.commitLevel c, Except.error e⟩] (.error (.database e))
  | committed {left : Nat} {es : List Event} {v : α} (h : step.Yields es (.ok v)) :
    StepTries c step left
      [.asked ⟨.openLevel c, Except.ok ()⟩, .ran es (.ok v), .asked ⟨.commitLevel c, Except.ok ()⟩]
      (.ok v)
  | stuck {left : Nat} {es : List Event} {f : Failure} (e : DatabaseError)
    (h : step.Yields es (.error f)) :
    StepTries c step left
      [.asked ⟨.openLevel c, Except.ok ()⟩, .ran es (.error f),
        .asked ⟨.rollbackLevel c, Except.error e⟩] (.error (.database e))
  | failed {left : Nat} {es : List Event} {f : Failure} (h : step.Yields es (.error f))
    (hf : f.isTransient = false ∨ left = 0) :
    StepTries c step left
      [.asked ⟨.openLevel c, Except.ok ()⟩, .ran es (.error f),
        .asked ⟨.rollbackLevel c, Except.ok ()⟩] (.error f)
  | again {left : Nat} {es : List Event} {f : Failure} {moves : List (Move α)}
    {x : Except Failure α} (millis : Nat) (h : step.Yields es (.error f))
    (hf : f.isTransient = true) (hrest : StepTries c step left moves x) :
    StepTries c step (left + 1)
      (.asked ⟨.openLevel c, Except.ok ()⟩ :: .ran es (.error f) ::
        .asked ⟨.rollbackLevel c, Except.ok ()⟩ :: .asked ⟨.wait millis, ()⟩ :: moves) x

theorem stepTries_of_yields {p : RetryPolicy} {c : ConnectionId} {step : Attempt α}
    {left failures : Nat} {es : List Event} {x : Except Failure α}
    (h : (retryStepFrom p c step left failures).Yields es x) :
    ∃ moves, es = transcript moves ∧ StepTries c step left moves x := by
  induction left generalizing failures es with
  | zero =>
    rw [retryStepFrom] at h
    cases yields_level h with
    | unopened e => exact ⟨_, rfl, .unopened e⟩
    | uncommitted e h₁ => exact ⟨_, rfl, .uncommitted e h₁⟩
    | committed h₁ => exact ⟨_, rfl, .committed h₁⟩
    | failed h₁ h₂ =>
      obtain ⟨_, e, rfl, rfl, rfl⟩ | ⟨_, ⟨⟩, _, rfl, rfl, ⟨rfl, rfl⟩⟩ :=
        yields_rollbackLevel_bind.1 h₂
      · exact ⟨_, rfl, .stuck e h₁⟩
      · exact ⟨_, rfl, .failed h₁ (.inr rfl)⟩
  | succ left ih =>
    rw [retryStepFrom] at h
    cases yields_level h with
    | unopened e => exact ⟨_, rfl, .unopened e⟩
    | uncommitted e h₁ => exact ⟨_, rfl, .uncommitted e h₁⟩
    | committed h₁ => exact ⟨_, rfl, .committed h₁⟩
    | @failed es₁ _ f _ h₁ h₂ =>
      obtain ⟨_, e, rfl, rfl, rfl⟩ | ⟨_, ⟨⟩, rest, rfl, rfl, hrest⟩ :=
        yields_rollbackLevel_bind.1 h₂
      · exact ⟨_, rfl, .stuck e h₁⟩
      dsimp only at hrest
      split at hrest
      · next hf =>
        obtain ⟨e, -, hwait⟩ | ⟨_, es₂, _, rfl, hwait, hagain⟩ := Attempt.yields_bind.1 hrest
        · obtain ⟨reply, -, hreply⟩ := Attempt.yields_ask.1 hwait
          cases hreply
        obtain ⟨⟨⟩, rfl, -⟩ := Attempt.yields_ask.1 hwait
        obtain ⟨moves, rfl, hmoves⟩ := ih hagain
        exact ⟨_, by simp [Move.events], .again (p.delayBound failures) h₁ hf hmoves⟩
      · next hf =>
        obtain ⟨rfl, rfl⟩ := hrest
        exact ⟨_, rfl, .failed h₁ (.inl (Bool.not_eq_true _ ▸ hf))⟩

namespace StepTries

variable {c : ConnectionId} {step : Attempt α} {left : Nat} {moves : List (Move α)}
  {x : Except Failure α}

/-- If all levels can be opened and closed then the tries of a step follow the law. -/
theorem lawful (h : StepTries c step left moves x)
    (hlevels : ∀ e ∈ around moves, e.levelError? = none) :
    Lawful (left + 1) (outcomes moves) x := by
  induction h with
  | unopened e => cases hlevels _ List.mem_cons_self
  | uncommitted e h => cases hlevels _ (List.mem_cons_of_mem _ List.mem_cons_self)
  | stuck e h => cases hlevels _ (List.mem_cons_of_mem _ List.mem_cons_self)
  | committed h => exact .single (Nat.succ_pos _) (.inl rfl)
  | failed h hf => exact .single (Nat.succ_pos _) (hf.imp_right fun hleft => by rw [hleft])
  | again millis h hf hrest ih =>
    refine (ih fun e he => hlevels e ?_).cons hf
    simp [he]

theorem isOf (h : StepTries c step left moves x) : ∀ m ∈ moves, m.IsOf step := by
  induction h with
  | unopened e => simp [Move.IsOf]
  | uncommitted e h | committed h | stuck e h | failed h hf => simpa [Move.IsOf] using h
  | again millis h hf hrest ih => simpa [Move.IsOf] using ⟨h, ih⟩

theorem isAroundStep (h : StepTries c step left moves x) :
    ∀ e ∈ around moves, e.request.IsAroundStep c := by
  induction h with
  | again millis h hf hrest ih => simpa [Request.IsAroundStep] using ih
  | _ => simp [Request.IsAroundStep]

/-- A level that cannot be opened or closed ends the tries. -/
theorem ends_at_levelError (h : StepTries c step left moves x) {before after : List (Move α)}
    {e : Event} {err : DatabaseError} (hmoves : moves = before ++ .asked e :: after)
    (he : e.levelError? = some err) : after = [] ∧ x = .error (.database err) := by
  induction h generalizing before with
  | unopened e =>
    rcases before with _ | ⟨m, before⟩
    · cases hmoves
      cases he
      exact ⟨rfl, rfl⟩
    · simp at hmoves
  | again millis h hf hrest ih =>
    rcases before with _ | ⟨m₁, _ | ⟨m₂, _ | ⟨m₃, _ | ⟨m₄, before⟩⟩⟩⟩ <;> cases hmoves
    · cases he
    · cases he
    · cases he
    · exact ih rfl
  | uncommitted e h | committed h | stuck e h | failed h hf =>
    rcases before with _ | ⟨m₁, _ | ⟨m₂, _ | ⟨m₃, before⟩⟩⟩
    · cases hmoves
      cases he
    · cases hmoves
    · cases hmoves
      first | exact ⟨rfl, by cases he; rfl⟩ | cases he
    · simp at hmoves

/-- At most one level is open at any time, and none after a success. -/
theorem levelCounts_le (h : StepTries c step left moves x) :
    (∀ n ∈ levelCounts c (around moves), n ≤ 1) ∧
      ∀ v, x = .ok v → (levelCounts c (around moves)).getLast? = some 0 := by
  induction h with
  | @again left es f moves x millis h hf hrest ih =>
    have hcounts : levelCounts c (around (.asked ⟨.openLevel c, Except.ok ()⟩ ::
        .ran es (.error f) :: .asked ⟨.rollbackLevel c, Except.ok ()⟩ ::
          .asked ⟨.wait millis, ()⟩ :: moves)) = 0 :: 1 :: 0 :: levelCounts c (around moves) := by
      simp [levelCounts, levelsAfter]
    rw [hcounts]
    refine ⟨by simpa using ih.1, fun v hv => ?_⟩
    rw [List.getLast?_cons, List.getLast?_cons, List.getLast?_cons, ih.2 v hv]
    rfl
  | _ => simp [levelCounts, levelsAfter]

end StepTries

end Tries

/-! ## Both together -/

open Tries in
/-- **How often something is tried.** A query and a step are run as often as the first final outcome
and the attempts of the settings allow, and answer the outcome of the last run: a query always, and
a step if all of its levels can be opened and closed. A level that cannot be opened or closed ends
the tries of a step with its error. There is never more than one level of the tries open, and none
after a success. -/
theorem tries_lawful (settings : RetrySettings) :
    (∀ (query : Attempt α) (es : List Event) (x : Except Failure α),
      (retryQuery (.ofSettings settings) query).Yields es x →
        ∃ moves, es = transcript moves ∧ (∀ m ∈ moves, m.IsOf query) ∧
          (∀ e ∈ around moves, e.request.IsWait) ∧
          Lawful (max settings.attempts 1) (outcomes moves) x) ∧
    ∀ (c : ConnectionId) (step : Attempt α) (es : List Event) (x : Except Failure α),
      (retryStep (.ofSettings settings) c step).Yields es x →
        ∃ moves, es = transcript moves ∧ (∀ m ∈ moves, m.IsOf step) ∧
          (∀ e ∈ around moves, e.request.IsAroundStep c) ∧
          ((∀ e ∈ around moves, e.levelError? = none) →
            Lawful (max settings.attempts 1) (outcomes moves) x) ∧
          (∀ before e after err, moves = before ++ .asked e :: after →
            e.levelError? = some err → after = [] ∧ x = .error (.database err)) ∧
          (∀ n ∈ levelCounts c (around moves), n ≤ 1) ∧
          ∀ v, x = .ok v → (levelCounts c (around moves)).getLast? = some 0 := by
  have hattempts : (RetryPolicy.ofSettings settings).retries + 1 = max settings.attempts 1 :=
    Nat.sub_add_cancel (Nat.le_max_right ..)
  rw [← hattempts]
  constructor
  · intro query es x hy
    obtain ⟨moves, rfl, hmoves⟩ := queryTries_of_yields hy
    exact ⟨moves, rfl, hmoves.isOf, hmoves.isWait, hmoves.lawful⟩
  · intro c step es x hy
    obtain ⟨moves, rfl, hmoves⟩ := stepTries_of_yields hy
    obtain ⟨hone, hnone⟩ := hmoves.levelCounts_le
    exact ⟨moves, rfl, hmoves.isOf, hmoves.isAroundStep, hmoves.lawful,
      fun _ _ _ _ hsplit he => hmoves.ends_at_levelError hsplit he, hone, hnone⟩

/-- A step that is refused by a deadlock and then succeeds. -/
theorem tries_lawful_deadlock :
    let step : Attempt Nat := send (.held 0) .standard (.markAnalyzed (.ofNat 1) (.ofNat 2))
    let clerk : Clerk := { plan := [none, some (.server (some "40P01") "deadlock detected")] }
    let tries := retryStep (.ofSettings {}) 0 step
    (clerk.transcript tries).length = 7 ∧
      ∃ moves, clerk.transcript tries = Tries.transcript moves ∧
        Tries.Lawful 5 (Tries.outcomes moves) (.ok 1) ∧
        (levelCounts 0 (Tries.around moves)).getLast? = some 0 := by
  intro step clerk tries
  have hanswer : (clerk.attend tries).1 = .ok 1 := by decide +kernel
  have hlevels : ∀ e ∈ clerk.transcript tries, e.levelError? = none := by decide +kernel
  obtain ⟨moves, hes, -, -, hlawful, -, -, hclosed⟩ :=
    (tries_lawful {}).2 0 step _ _ (clerk.yields_transcript tries)
  rw [hanswer] at hlawful hclosed
  rw [hes] at hlevels
  exact ⟨by decide +kernel, moves, hes,
    hlawful fun e he => hlevels e (Tries.mem_transcript_of_mem_around he), hclosed _ rfl⟩

end TrafficLens
