import PaymentGateway.Worker.Runs

namespace PaymentGateway.Worker

open PaymentGateway.Ledger PaymentGateway.Api

-- The stages of an execution before its bank call returns.
def Stage.beforeCall : Stage → Bool
  | .start | .calling => true
  | _ => false

@[simp] theorem Stage.beforeCall_start : Stage.start.beforeCall = true := rfl

@[simp] theorem Stage.beforeCall_calling : Stage.calling.beforeCall = true := rfl

-- `process` runs forward: only a fresh execution can be before its bank call after a step.
theorem advance_beforeCall (x : Execution) (i : Input) (db : Db)
    (h : (advance x i db).2.beforeCall = true) : x.stage = .start := by
  rcases x with ⟨job, retries, _ | _ | r | r | e | _ | _⟩
  · rfl
  all_goals simp only [advance] at h; repeat' split at h
  all_goals cases h

-- Executions of `tid` still waiting for their bank call.
def System.awaitingBank (s : System) (tid : Nat) : Nat :=
  s.running.countP fun x => x.job.transactionId == tid && x.stage.beforeCall

def System.callsFor (s : System) (tid : Nat) : Nat := s.bankCalls.countP (·.1 == tid)

theorem System.step_calls (s : System) (a : Action) (tid : Nat) :
    (s.step a).callsFor tid + (s.step a).awaitingBank tid + s.started.count tid ≤
      s.callsFor tid + s.awaitingBank tid + (s.step a).started.count tid := by
  have erase : ∀ i, (s.running.eraseIdx i).countP
      (fun x => x.job.transactionId == tid && x.stage.beforeCall) ≤ s.awaitingBank tid :=
    fun i => (List.eraseIdx_sublist _ i).countP_le _
  cases a with
  | submit kind f acc user amount cur task => exact le_refl _
  | deliver i r =>
    simp only [step]
    split
    · exact le_refl _
    · simp only [callsFor, awaitingBank, List.countP_append, List.count_append,
        List.countP_singleton, List.count_singleton, Stage.beforeCall_start, Bool.and_true]
      split_ifs <;> omega
  | advance i input =>
    simp only [step]
    split
    · exact le_refl _
    · rename_i x hx
      obtain ⟨hi, rfl⟩ := List.getElem?_eq_some_iff.mp hx
      simp only [callsFor, awaitingBank]
      rw [List.countP_set _ _ _ _ hi]
      have hle := List.boole_getElem_le_countP
        (fun x => x.job.transactionId == tid && x.stage.beforeCall) s.running i hi
      simp only at hle
      cases hb : (advance s.running[i] input s.db).2.beforeCall
      · by_cases hc : s.running[i].stage = .calling
        · simp only [hc, if_true, List.countP_append, List.countP_singleton, hb,
            Stage.beforeCall_calling, Bool.and_false, Bool.and_true, Bool.false_eq_true,
            if_false] at hle ⊢
          omega
        · simp only [hc, if_false, hb, Bool.and_false, Bool.false_eq_true]
          omega
      · have hs := advance_beforeCall _ _ _ hb
        simp only [hs, reduceCtorEq, if_false, hb, Stage.beforeCall_start] at hle ⊢
        omega
  | settle i =>
    have he := erase i
    simp only [callsFor, awaitingBank] at he
    simp only [step]
    split
    · exact le_refl _
    · split
      · simp only [callsFor, awaitingBank]; omega
      · split <;> simp only [callsFor, awaitingBank] <;> omega
      · exact le_refl _
  | replay i => simp only [step]; split <;> exact le_refl _
  | callback now valid p f => exact le_refl _
  | hook k outcomes => simp only [step]; split <;> exact le_refl _

-- Every bank call for a transaction is made by an execution that was waiting for it when the
-- run began or was started during the run, and each execution makes at most one.
theorem bank_calls_bounded_by_executions (s : System) (actions : List Action) (tid : Nat) :
    (s.run actions).callsFor tid + (s.run actions).awaitingBank tid + s.started.count tid ≤
      s.callsFor tid + s.awaitingBank tid + (s.run actions).started.count tid := by
  induction actions generalizing s with
  | nil => exact le_refl _
  | cons a rest ih =>
    have h₁ := s.step_calls a tid
    have h₂ := ih (s.step a)
    simp only [System.run_cons]
    omega

-- The commit of the webhook's job fails after the completion committed.
def brokerDown : Input :=
  ⟨{ Faults.clean with enqueue := some ⟨.BrokerError, "Connection refused"⟩ }, none,
    .response okResponse⟩

-- The bank accepts a deposit, its completion commits but the webhook's enqueue raises, Celery
-- retries, and the retry goes back to the bank and completes again.
def retriedAfterSuccess : List Action :=
  [.submit .Deposit .clean 0 0 5000 "USD" "task-1", .deliver 0 false,
   .advance 0 okInput, .advance 0 okInput, .advance 0 brokerDown, .advance 0 okInput,
   .settle 0, .deliver 0 false, .advance 0 okInput, .advance 0 okInput, .advance 0 okInput]

theorem retry_calls_bank_after_success :
    (System.run (.init hookedDb) retriedAfterSuccess).bankCalls =
      [(0, .response okResponse), (0, .response okResponse)] ∧
    (System.run (.init hookedDb) retriedAfterSuccess).db.balanceOf 0 = 20000 := by
  decide

end PaymentGateway.Worker
