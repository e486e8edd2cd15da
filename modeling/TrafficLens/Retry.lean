import TrafficLens.Failure
import TrafficLens.Settings.Basic

/-!
# Trying again

A `RetryPolicy` says how often something that failed with a transient error is tried again, and how
long to wait before. The first try counts as an attempt, and so there is one wait less than there
are attempts. The waits grow by the factor of the first one and never exceed the greatest; the
actual wait is some random part of the bound.

`RetryPolicy.retry` tries an action again as long as the policy allows and the failure is transient.
Any other outcome is final.
-/

namespace TrafficLens

/-- How often and how fast something is tried again. -/
structure RetryPolicy where
  /-- The number of attempts, the first one included. -/
  attempts : Nat
  baseDelayMillis : Nat
  maxDelayMillis : Nat
  attempts_pos : 0 < attempts
  baseDelay_pos : 0 < baseDelayMillis

namespace RetryPolicy

/-- The policy of the settings, with at least one attempt and some wait. -/
def ofSettings (s : RetrySettings) : RetryPolicy where
  attempts := max s.attempts 1
  baseDelayMillis := max s.baseDelayMillis 1
  maxDelayMillis := s.maxDelayMillis
  attempts_pos := by omega
  baseDelay_pos := by omega

/-- The number of waits: one less than there are attempts. -/
def retries (p : RetryPolicy) : Nat := p.attempts - 1

/-- The longest that the wait after `n + 1` failures can be. -/
def delayBound (p : RetryPolicy) (n : Nat) : Nat :=
  min (Nat.pow p.baseDelayMillis (n + 1)) p.maxDelayMillis

theorem delayBound_le (p : RetryPolicy) (n : Nat) : p.delayBound n ≤ p.maxDelayMillis := by
  unfold delayBound
  omega

variable {m : Type → Type} {α : Type} [Monad m]

/-- Try an action, and at most `left` times again; `failures` tries failed before. -/
def retryFrom (p : RetryPolicy) (pause : Nat → m Unit) (action : m (Except Failure α)) :
    (left failures : Nat) → m (Except Failure α)
  | 0, _ => action
  | left + 1, failures => do
    match ← action with
    | .error f =>
      if f.isTransient then
        pause (p.delayBound failures)
        retryFrom p pause action left (failures + 1)
      else pure (.error f)
    | .ok a => pure (.ok a)

/-- Try an action, and again after transient failures as often as the policy allows. -/
def retry (p : RetryPolicy) (pause : Nat → m Unit) (action : m (Except Failure α)) :
    m (Except Failure α) :=
  p.retryFrom pause action p.retries 0

end RetryPolicy

end TrafficLens
