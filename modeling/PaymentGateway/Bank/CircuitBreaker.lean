import Mathlib.Data.Rat.Defs
import Mathlib.Data.List.Basic

namespace PaymentGateway.Bank

inductive CircuitState
  | Closed
  | Open
  | HalfOpen
  deriving DecidableEq, Repr

-- The constructor's `failure_threshold`, `timeout_seconds` and `success_threshold`.
structure Config where
  failureThreshold : Int
  timeoutSeconds : Int
  successThreshold : Int
  deriving DecidableEq, Repr

-- `state`, `failure_count`, `success_count` and `last_failure_time`.
structure Breaker where
  state : CircuitState
  failureCount : Nat
  successCount : Nat
  lastFailureTime : Option ℚ
  deriving DecidableEq, Repr

-- The calls, each under the breaker's mutex, with the reading of `time.time()` they make.
inductive Call
  | canExecute (now : ℚ)
  | recordSuccess
  | recordFailure (now : ℚ)
  deriving DecidableEq, Repr

namespace Breaker

def init : Breaker := ⟨.Closed, 0, 0, none⟩

section Transitions

variable (c : Config)

def shouldAttemptReset (now : ℚ) (b : Breaker) : Bool :=
  match b.lastFailureTime with
  | none => false
  | some t => decide ((c.timeoutSeconds : ℚ) ≤ now - t)

def transitionToOpen (b : Breaker) : Breaker := { b with state := .Open, successCount := 0 }

def transitionToHalfOpen (b : Breaker) : Breaker :=
  { b with state := .HalfOpen, failureCount := 0, successCount := 0 }

def transitionToClosed (b : Breaker) : Breaker :=
  { b with state := .Closed, failureCount := 0, successCount := 0 }

def canExecute (now : ℚ) (b : Breaker) : Bool × Breaker :=
  match b.state with
  | .Closed => (true, b)
  | .Open => if shouldAttemptReset c now b then (true, transitionToHalfOpen b) else (false, b)
  | .HalfOpen => (true, b)

def recordSuccess (b : Breaker) : Breaker :=
  match b.state with
  | .HalfOpen =>
    if c.successThreshold ≤ (b.successCount + 1 : Nat) then
      transitionToClosed { b with successCount := b.successCount + 1 }
    else { b with successCount := b.successCount + 1 }
  | _ => { b with failureCount := 0 }

def recordFailure (now : ℚ) (b : Breaker) : Breaker :=
  match b.state with
  | .HalfOpen => transitionToOpen { b with failureCount := b.failureCount + 1, lastFailureTime := some now }
  | .Closed =>
    if c.failureThreshold ≤ (b.failureCount + 1 : Nat) then
      transitionToOpen { b with failureCount := b.failureCount + 1, lastFailureTime := some now }
    else { b with failureCount := b.failureCount + 1, lastFailureTime := some now }
  | .Open => { b with failureCount := b.failureCount + 1, lastFailureTime := some now }

def step (b : Breaker) : Call → Breaker
  | .canExecute now => (canExecute c now b).2
  | .recordSuccess => recordSuccess c b
  | .recordFailure now => recordFailure c now b

def run (b : Breaker) : List Call → Breaker
  | [] => b
  | x :: rest => (b.step c x).run rest

end Transitions

end Breaker

-- The failures since the last `record_success`. Entering CLOSED is itself a `record_success`
-- (or the start), so this counts from the later of the two.
def failureStreak (n : Nat) : Call → Nat
  | .recordSuccess => 0
  | .recordFailure _ => n + 1
  | .canExecute _ => n

def streak (calls : List Call) : Nat := calls.foldl failureStreak 0

namespace Breaker

section Invariant

variable (c : Config)

-- What every state reached with `n` failures in the current streak satisfies.
structure Healthy (n : Nat) (b : Breaker) : Prop where
  closed : b.state = .Closed →
    b.successCount = 0 ∧ (b.failureCount : Int) < c.failureThreshold ∧ b.failureCount = n
  halfOpen : b.state = .HalfOpen → b.failureCount = 0 ∧ (b.successCount : Int) < c.successThreshold
  opened : b.state = .Open → b.lastFailureTime.isSome ∧ b.successCount = 0

variable {c}

theorem Healthy.canExecute (hs : 1 ≤ c.successThreshold) {n : Nat} {b : Breaker} (h : Healthy c n b)
    (now : ℚ) : Healthy c n (Breaker.canExecute c now b).2 := by
  rcases b with ⟨_ | _ | _, fc, sc, t⟩ <;> simp only [Breaker.canExecute]
  · exact h
  · split
    · exact ⟨by simp [transitionToHalfOpen], fun _ => ⟨rfl, by simp [transitionToHalfOpen]; omega⟩,
        by simp [transitionToHalfOpen]⟩
    · exact h
  · exact h

theorem Healthy.recordSuccess (hf : 1 ≤ c.failureThreshold) {n : Nat} {b : Breaker} (h : Healthy c n b) :
    Healthy c 0 (Breaker.recordSuccess c b) := by
  rcases b with ⟨_ | _ | _, fc, sc, t⟩ <;> simp only [Breaker.recordSuccess]
  · obtain ⟨hsc, -, -⟩ := h.closed rfl
    exact ⟨fun _ => ⟨hsc, by simp; omega, rfl⟩, by simp, by simp⟩
  · exact ⟨by simp, by simp, fun _ => (h.opened rfl)⟩
  · have hsc := h.halfOpen rfl
    split
    · exact ⟨fun _ => ⟨rfl, by simp [transitionToClosed]; omega, rfl⟩, by simp [transitionToClosed],
        by simp [transitionToClosed]⟩
    · exact ⟨by simp, fun _ => ⟨hsc.1, by simp only at *; omega⟩, by simp⟩

theorem Healthy.recordFailure {n : Nat} {b : Breaker} (h : Healthy c n b) (now : ℚ) :
    Healthy c (n + 1) (Breaker.recordFailure c now b) := by
  rcases b with ⟨_ | _ | _, fc, sc, t⟩ <;> simp only [Breaker.recordFailure]
  · obtain ⟨hsc, hlt, hfc⟩ := h.closed rfl
    split
    · exact ⟨by simp [transitionToOpen], by simp [transitionToOpen], fun _ => ⟨rfl, rfl⟩⟩
    · exact ⟨fun _ => ⟨hsc, by simp only at *; omega, by simp only at *; omega⟩, by simp, by simp⟩
  · exact ⟨by simp, by simp, fun _ => ⟨rfl, (h.opened rfl).2⟩⟩
  · exact ⟨by simp [transitionToOpen], by simp [transitionToOpen], fun _ => ⟨rfl, rfl⟩⟩

section Thresholds

variable (hf : 1 ≤ c.failureThreshold) (hs : 1 ≤ c.successThreshold)
include hf hs

theorem Healthy.step {n : Nat} {b : Breaker} (h : Healthy c n b) (x : Call) :
    Healthy c (failureStreak n x) (b.step c x) := by
  cases x with
  | canExecute now => exact h.canExecute hs now
  | recordSuccess => exact h.recordSuccess hf
  | recordFailure now => exact h.recordFailure now

theorem Healthy.run {n : Nat} {b : Breaker} (h : Healthy c n b) (calls : List Call) :
    Healthy c (calls.foldl failureStreak n) (b.run c calls) := by
  induction calls generalizing n b with
  | nil => exact h
  | cons x rest ih => exact ih (h.step hf hs x)

end Thresholds

theorem Healthy.init (hf : 1 ≤ c.failureThreshold) : Healthy c 0 Breaker.init where
  closed _ := ⟨rfl, by simp only [Breaker.init, Int.ofNat_zero]; omega, rfl⟩
  halfOpen h := by cases h
  opened h := by cases h

-- From CLOSED, only a failure leaves, and only the one that brings the streak to the threshold.
theorem Healthy.leaves_closed {n : Nat} {b : Breaker} (h : Healthy c n b) (hc : b.state = .Closed)
    (x : Call) :
    (b.step c x).state ≠ .Closed ↔ (∃ t, x = .recordFailure t) ∧ (failureStreak n x : Int) = c.failureThreshold := by
  obtain ⟨-, hlt, rfl⟩ := h.closed hc
  rcases b with ⟨_ | _ | _, fc, sc, t⟩ <;> cases hc
  cases x with
  | canExecute now => simp [Breaker.step, Breaker.canExecute]
  | recordSuccess => simp [Breaker.step, Breaker.recordSuccess]
  | recordFailure now =>
    simp only [Breaker.step, Breaker.recordFailure, failureStreak]
    split <;> simp_all [transitionToOpen] <;> omega

end Invariant

end Breaker

open Breaker

-- The breaker's invariant over every sequence of calls, and what follows from it: CLOSED is left
-- exactly on the `failure_threshold`-th consecutive failure, and every OPEN state has a last
-- failure time after which `can_execute` lets a probe through into HALF_OPEN.
theorem breaker_calls_invariant (c : Config) (hf : 1 ≤ c.failureThreshold) (hs : 1 ≤ c.successThreshold)
    (calls : List Call) :
    Healthy c (streak calls) (Breaker.init.run c calls) ∧
    ((Breaker.init.run c calls).state = .Closed → ∀ x,
      ((Breaker.init.run c calls).step c x).state ≠ .Closed ↔
        (∃ t, x = .recordFailure t) ∧ (streak (calls ++ [x]) : Int) = c.failureThreshold) ∧
    ((Breaker.init.run c calls).state = .Open → ∃ t, (Breaker.init.run c calls).lastFailureTime = some t ∧
      ∀ now : ℚ, (c.timeoutSeconds : ℚ) ≤ now - t →
        Breaker.canExecute c now (Breaker.init.run c calls) =
          (true, { Breaker.init.run c calls with state := .HalfOpen, failureCount := 0, successCount := 0 })) := by
  have h := (Healthy.init hf).run hf hs calls
  refine ⟨h, fun hc x => ?_, fun ho => ?_⟩
  · rw [streak, List.foldl_append]
    exact h.leaves_closed hc x
  · obtain ⟨ht, -⟩ := h.opened ho
    obtain ⟨t, hlt⟩ := Option.isSome_iff_exists.mp ht
    refine ⟨t, hlt, fun now hnow => ?_⟩
    simp [Breaker.canExecute, ho, shouldAttemptReset, hlt, hnow, transitionToHalfOpen]

-- `_bank_circuit_breaker`.
def bankApi : Config := ⟨5, 30, 2⟩

-- Five timeouts of the bank in a row open the breaker.
def fiveTimeouts : List Call := (List.range 5).map fun i => .recordFailure i

example : (Breaker.init.run bankApi (fiveTimeouts.take 4)).state = .Closed ∧
    (Breaker.init.run bankApi fiveTimeouts).state = .Open := by
  decide

end PaymentGateway.Bank
