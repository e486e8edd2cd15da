import Mathlib.Logic.Function.Basic
import TrafficLens.Proofs.Program.Rehearsal

/-!
# Programs that take turns

A `Crowd` is a world with some programs in it, each of them somewhere on its way. In a step one of
them has its next request answered; nobody else gets in between, for a request is the smallest thing
that a program can do. A schedule says whose turn it is in each step, so the schedules of a crowd
are all the ways in which its programs can interleave.

What is true of every run is proved by an invariant of single steps (`invariant_run`). A program
that has had enough turns to be done is done, whatever the others did in between
(`done_of_turns`).
-/

namespace TrafficLens

variable {ι α : Type}

namespace Program

/-- Answer the next request of a program. One that is done stays as it is. -/
def step : Program α → World → Program α × World
  | done a, w => (done a, w)
  | request r next, w => (next ((World.reply r).run w).1, ((World.reply r).run w).2)

/-- The program is done after so many replies, whatever they are. -/
def Within : Nat → Program α → Prop
  | _, done _ => True
  | 0, request _ _ => False
  | n + 1, request _ next => ∀ reply, Within n (next reply)

theorem Within.step {n : Nat} {p : Program α} (h : p.Within (n + 1)) (w : World) :
    (p.step w).1.Within n := by
  cases p with
  | done a => cases n <;> trivial
  | request r next => exact h _

theorem Within.exists_done {p : Program α} (h : p.Within 0) : ∃ a, p = done a := by
  cases p with
  | done a => exact ⟨a, rfl⟩
  | request r next => cases h

/-- A request to the store in memory is answered by the store while no faults are planned. -/
theorem step_store {w : World} (hw : w.faults = {}) (call : StoreCall)
    (next : Except Failure call.Answer → Program α) :
    (request (.store call) next).step w =
      (next (.ok (w.store.perform call).1), { w with store := (w.store.perform call).2 }) :=
  congrArg (fun r => (next r.1, r.2)) (World.askFaultyStore_of_faults hw call)

end Program

/-- Programs on their ways, and the world that they are in. -/
structure Crowd (ι α : Type) where
  world : World
  parts : ι → Program α

namespace Crowd

variable [DecidableEq ι]

/-- It is the turn of one of the programs. -/
def step (crowd : Crowd ι α) (i : ι) : Crowd ι α :=
  { world := ((crowd.parts i).step crowd.world).2
    parts := Function.update crowd.parts i ((crowd.parts i).step crowd.world).1 }

/-- The programs take turns as a schedule says. -/
def run (crowd : Crowd ι α) (schedule : List ι) : Crowd ι α := schedule.foldl step crowd

variable {crowd : Crowd ι α} {i : ι}

@[simp] theorem run_nil (crowd : Crowd ι α) : crowd.run [] = crowd := rfl

@[simp] theorem run_cons (crowd : Crowd ι α) (i : ι) (schedule : List ι) :
    crowd.run (i :: schedule) = (crowd.step i).run schedule := rfl

@[simp] theorem step_parts_self :
    (crowd.step i).parts i = ((crowd.parts i).step crowd.world).1 :=
  Function.update_self ..

theorem step_parts_of_ne {j : ι} (h : j ≠ i) : (crowd.step i).parts j = crowd.parts j :=
  Function.update_of_ne h ..

/-- What every step preserves holds after every run. -/
theorem invariant_run {P : Crowd ι α → Prop} (hstep : ∀ crowd i, P crowd → P (crowd.step i))
    (h : P crowd) (schedule : List ι) : P (crowd.run schedule) := by
  induction schedule generalizing crowd with
  | nil => exact h
  | cons i schedule ih => exact ih (hstep crowd i h)

/-- A program that has had enough turns is done. -/
theorem done_of_turns {n : Nat} {schedule : List ι} (h : (crowd.parts i).Within n)
    (hn : n ≤ schedule.count i) : ∃ a, (crowd.run schedule).parts i = .done a := by
  induction schedule generalizing crowd n with
  | nil =>
    obtain rfl := Nat.le_zero.1 hn
    exact h.exists_done
  | cons j schedule ih =>
    rw [run_cons]
    by_cases hj : i = j
    · subst hj
      rw [List.count_cons_self] at hn
      refine ih (n := n - 1) ?_ (by omega)
      rw [step_parts_self]
      cases n with
      | zero =>
        obtain ⟨a, ha⟩ := h.exists_done
        rw [ha]
        trivial
      | succ n => exact h.step _
    · rw [List.count_cons_of_ne (Ne.symm hj)] at hn
      exact ih (by rwa [step_parts_of_ne hj]) hn

end Crowd

end TrafficLens
