import TrafficLens.Rehearsal.World
import TrafficLens.Service.Basic

/-!
# How rehearsals go

A rehearsal of one attempt after another is the rehearsal of the one and then, if it did not fail,
of the other in the world that it left (`rehearse_bind`). Together with the equations for single
requests this takes every program apart along its own text. The store in memory answers as itself
while no faults are planned for it (`rehearse_askMemory`).
-/

namespace TrafficLens

variable {α β : Type}

theorem Program.run_andThen {σ : Type} (handle : (r : Request) → σ → r.Reply × σ)
    (p : Program α) (f : α → Program β) (s : σ) :
    run handle (p.andThen f) s = run handle (f (run handle p s).1) (run handle p s).2 := by
  induction p generalizing s with
  | done a => rfl
  | request r next ih => exact ih _ _

namespace World

/-! ## Sequences of attempts -/

theorem rehearse_bind (a : Attempt α) (f : α → Attempt β) (w : World) :
    rehearse (a >>= f) w =
      match rehearse a w with
      | (.ok x, w) => rehearse (f x) w
      | (.error e, w) => (.error e, w) := by
  have h : rehearse (a >>= f) w =
      Program.run (fun r => (reply r).run) (ExceptT.bindCont f (rehearse a w).1) (rehearse a w).2 :=
    Program.run_andThen _ a.run (ExceptT.bindCont f) w
  rw [h]
  rcases rehearse a w with ⟨_ | x, w⟩ <;> rfl

/-- The attempt that follows one which succeeds. -/
theorem rehearse_bind_of_ok {a : Attempt α} {x : α} {w w' : World}
    (h : rehearse a w = (.ok x, w')) (f : α → Attempt β) :
    rehearse (a >>= f) w = rehearse (f x) w' := by
  rw [rehearse_bind, h]

@[simp] theorem rehearse_pure (x : α) (w : World) :
    rehearse (pure x : Attempt α) w = (.ok x, w) := rfl

@[simp] theorem rehearse_ofExcept (x : Except Failure α) (w : World) :
    rehearse (Attempt.ofExcept x) w = (x, w) := by
  cases x <;> rfl

@[simp] theorem rehearse_outcome (a : Attempt α) (w : World) :
    rehearse a.outcome w = (.ok (rehearse a w).1, (rehearse a w).2) :=
  Program.run_andThen _ a.run _ w

@[simp] theorem rehearse_ask (r : Request) (w : World) :
    rehearse (Attempt.ask r) w = (.ok ((reply r).run w).1, ((reply r).run w).2) := rfl

/-! ## The store in memory -/

theorem askFaultyStore_of_faults {w : World} (hw : w.faults = {}) (call : StoreCall) :
    (askFaultyStore call).run w =
      (.ok (w.store.perform call).1, { w with store := (w.store.perform call).2 }) := by
  have htake : (takeFault call).run w = (.pass, w) := by
    obtain ⟨_, _, _, _, _, _, _, _, _, faults, _, _⟩ := w
    obtain rfl : faults = {} := hw
    cases call <;> rfl
  rw [askFaultyStore, StateT.run_bind, htake]
  rfl

/-- A store without planned faults answers as itself. -/
theorem rehearse_askMemory {w : World} (hw : w.faults = {}) (call : StoreCall) :
    rehearse (EndpointStore.askMemory call) w =
      (.ok (w.store.perform call).1, { w with store := (w.store.perform call).2 }) := by
  have hask : rehearse (Attempt.ask (.store call)) w =
      (.ok (.ok (w.store.perform call).1), { w with store := (w.store.perform call).2 }) :=
    (rehearse_ask _ w).trans
      (congrArg (fun p => (Except.ok p.1, p.2)) (askFaultyStore_of_faults hw call))
  rw [EndpointStore.askMemory, rehearse_bind_of_ok hask]
  exact rehearse_ofExcept _ _

theorem rehearse_findMatch {w : World} (hw : w.faults = {}) (t : Tenant)
    (host method path : String) :
    rehearse (EndpointStore.memory.findMatch t host method path) w =
      (.ok (w.store.findMatch host method path), w) :=
  rehearse_askMemory hw (.findMatch host method path)

theorem rehearse_findExact {w : World} (hw : w.faults = {}) (t : Tenant)
    (host method template : String) :
    rehearse (EndpointStore.memory.findExact t host method template) w =
      (.ok (w.store.findExact host method template), w) :=
  rehearse_askMemory hw (.findExact host method template)

theorem rehearse_insert {w : World} (hw : w.faults = {}) (t : Tenant) (e : Endpoint) :
    rehearse (EndpointStore.memory.insert t e) w =
      (.ok (w.store.insert e).1, { w with store := (w.store.insert e).2 }) :=
  rehearse_askMemory hw (.insert e)

/-- The identifiers of the next supply. -/
def freshId (w : World) (n : Nat) : Uuid := Uuid.ofNat (w.firstId + w.supplies * Nat.pow 2 64 + n)

theorem rehearse_freshIds (w : World) :
    rehearse TrafficLens.freshIds w = (.ok w.freshId, { w with supplies := w.supplies + 1 }) := rfl

end World

end TrafficLens
