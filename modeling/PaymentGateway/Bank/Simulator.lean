import PaymentGateway.Bank.CircuitBreaker
import PaymentGateway.Worker.Processor

namespace PaymentGateway.Bank

open PaymentGateway.Worker PaymentGateway.Ledger

-- The draws of `_generate_error_scenario`.
inductive ErrorScenario
  | unavailable
  | timeout
  | insufficientFunds
  deriving DecidableEq, Repr

def generateErrorScenario : ErrorScenario → BankResponse
  | .unavailable => ⟨.Unavailable, none, some "Bank service temporarily unavailable", some "BANK_UNAVAILABLE"⟩
  | .timeout => ⟨.Timeout, none, some "Bank processing timeout", some "BANK_TIMEOUT"⟩
  | .insufficientFunds =>
    ⟨.InsufficientFunds, none, some "Insufficient funds in external account", some "INSUFFICIENT_FUNDS"⟩

-- What the world decides for a call the breaker lets through: `_should_succeed()` with the
-- twelve hex digits of the `uuid4`, else the error scenario drawn, or an exception raised
-- during the network delay.
inductive Draw
  | success (hex : String)
  | error (scenario : ErrorScenario)
  | raised (e : Error)
  deriving DecidableEq, Repr

-- The answer while the breaker refuses.
def circuitOpenResponse : BankResponse :=
  ⟨.Unavailable, none, some "Bank service is currently unavailable (circuit breaker OPEN)",
    some "CIRCUIT_BREAKER_OPEN"⟩

-- `process_deposit` and `process_withdrawal` differ in the bank id's prefix and the message of
-- a success; `now` is the time `can_execute` reads, `later` the one `record_failure` reads.
def processPayment (bankIdPrefix successMessage : String) (b : Breaker) (now later : ℚ) (draw : Draw) :
    Breaker × BankOutcome :=
  let admitted := Breaker.canExecute bankApi now b
  if !admitted.1 then (admitted.2, .response circuitOpenResponse)
  else
    match draw with
    | .success hex =>
      (Breaker.recordSuccess bankApi admitted.2,
        .response ⟨.Success, some (bankIdPrefix ++ hex), some successMessage, none⟩)
    | .error scenario =>
      let r := generateErrorScenario scenario
      (if r.status = .Unavailable ∨ r.status = .Timeout then Breaker.recordFailure bankApi later admitted.2
        else admitted.2, .response r)
    | .raised e => (Breaker.recordFailure bankApi later admitted.2, .raised e)

def processDeposit := processPayment "BANK-DEP-" "Deposit processed successfully"

def processWithdrawal := processPayment "BANK-WTH-" "Withdrawal processed successfully"

-- `call_bank` of each strategy.
def callBank : TransactionType → Breaker → ℚ → ℚ → Draw → Breaker × BankOutcome
  | .Deposit => processDeposit
  | .Withdrawal => processWithdrawal

-- One bank call of a worker process: the strategy, the two clock readings and the draw.
structure BankCall where
  kind : TransactionType
  now : ℚ
  later : ℚ
  draw : Draw
  deriving DecidableEq, Repr

-- The calls one process makes, one after another, against its `_bank_circuit_breaker`.
def callAll (b : Breaker) : List BankCall → Breaker × List BankOutcome
  | [] => (b, [])
  | x :: rest =>
    let r := callBank x.kind b x.now x.later x.draw
    let next := callAll r.1 rest
    (next.1, r.2 :: next.2)

-- The breaker's calls one bank call makes: `can_execute`, then, if let through, a success, a
-- failure for an unavailable or timed-out bank or an exception, and nothing for insufficient
-- funds.
def breakerCalls (b : Breaker) (x : BankCall) : List Call :=
  .canExecute x.now ::
    if (Breaker.canExecute bankApi x.now b).1 then
      match x.draw with
      | .success _ => [.recordSuccess]
      | .error .insufficientFunds => []
      | .error _ | .raised _ => [.recordFailure x.later]
    else []

theorem callBank_breaker (x : BankCall) (b : Breaker) :
    (callBank x.kind b x.now x.later x.draw).1 = b.run bankApi (breakerCalls b x) := by
  rcases x with ⟨kind, now, later, draw⟩
  cases kind <;>
  · simp only [callBank, processDeposit, processWithdrawal, processPayment, breakerCalls]
    cases hc : (Breaker.canExecute bankApi now b).1
    · simp [Breaker.run, Breaker.step, hc]
    · cases draw with
      | success hex => simp [Breaker.run, Breaker.step, hc]
      | error scenario => cases scenario <;> simp [Breaker.run, Breaker.step, hc, generateErrorScenario]
      | raised e => simp [Breaker.run, Breaker.step, hc]

theorem Breaker.run_append (c : Config) (b : Breaker) (xs ys : List Call) :
    b.run c (xs ++ ys) = (b.run c xs).run c ys := by
  induction xs generalizing b with
  | nil => rfl
  | cons x rest ih => exact ih _

-- The breaker's calls of a whole run.
def breakerTrace (b : Breaker) : List BankCall → List Call
  | [] => []
  | x :: rest => breakerCalls b x ++ breakerTrace (callBank x.kind b x.now x.later x.draw).1 rest

-- The adapter drives the breaker by exactly these calls.
theorem callAll_breaker (b : Breaker) (calls : List BankCall) :
    (callAll b calls).1 = b.run bankApi (breakerTrace b calls) := by
  induction calls generalizing b with
  | nil => rfl
  | cons x rest ih => rw [callAll, breakerTrace, Breaker.run_append, ← callBank_breaker, ← ih]

-- What an answer does to the count of the bank's failures since its last success: a success
-- clears it, an unavailable or timed-out bank or an exception adds one; the breaker's own
-- refusal and insufficient funds leave it.
def answerStreak (n : Nat) : BankOutcome → Nat
  | .raised _ => n + 1
  | .response r =>
    if r = circuitOpenResponse then n
    else
      match r.status with
      | .Success => 0
      | .Unavailable | .Timeout => n + 1
      | .Failed | .InsufficientFunds => n

theorem breakerCalls_streak (b : Breaker) (x : BankCall) (n : Nat) :
    (breakerCalls b x).foldl failureStreak n = answerStreak n (callBank x.kind b x.now x.later x.draw).2 := by
  rcases x with ⟨kind, now, later, draw⟩
  cases kind <;>
  · simp only [callBank, processDeposit, processWithdrawal, processPayment, breakerCalls]
    cases hc : (Breaker.canExecute bankApi now b).1
    · simp [hc, failureStreak, answerStreak]
    · cases draw with
      | success hex => simp [hc, failureStreak, answerStreak, circuitOpenResponse]
      | error scenario =>
        cases scenario <;> simp [hc, failureStreak, answerStreak, circuitOpenResponse, generateErrorScenario]
      | raised e => simp [hc, failureStreak, answerStreak]

theorem breakerTrace_streak (b : Breaker) (calls : List BankCall) (n : Nat) :
    (breakerTrace b calls).foldl failureStreak n = (callAll b calls).2.foldl answerStreak n := by
  induction calls generalizing b n with
  | nil => rfl
  | cons x rest ih => simp only [breakerTrace, callAll, List.foldl_append, List.foldl_cons, breakerCalls_streak, ih]

-- Over every sequence of deposits and withdrawals a worker process sends the bank, whatever the
-- bank answers and whenever: the shared breaker is in a state the invariant allows for the
-- number of unavailable, timed-out or raising answers since the bank's last success, so it is
-- CLOSED only with fewer than five of them and that many failures counted.
theorem bank_breaker_counts_answers (calls : List BankCall) :
    Breaker.Healthy bankApi ((callAll Breaker.init calls).2.foldl answerStreak 0) (callAll Breaker.init calls).1 := by
  rw [← breakerTrace_streak, callAll_breaker]
  exact (Breaker.Healthy.init (by decide)).run (by decide) (by decide) _

end PaymentGateway.Bank
