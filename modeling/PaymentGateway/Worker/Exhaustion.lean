import PaymentGateway.Worker.Runs

namespace PaymentGateway.Worker

open PaymentGateway.Ledger

-- What a step of an execution can raise: the error of `task_instance.get_db()`, which `process`
-- calls before its `try`, or, in `_handle_exception`, the exception re-raised while retries
-- remain. An exhausted execution that gets its session never raises.
theorem advance_raised {x : Execution} {i : Input} {db : Db} {e : Error}
    (h : (advance x i db).2 = .raised e) :
    x.stage = .raised e ∨ (x.stage = .start ∧ i.session = some e) ∨
      (x.retries < maxRetries ∧ x.stage = .handling e) := by
  rcases x with ⟨job, retries, _ | _ | r | r | e' | res | e'⟩ <;> simp only [advance] at h
  · -- `get_db()` or `update_status`
    split at h
    · cases h; exact .inr (.inl ⟨rfl, ‹_›⟩)
    · split at h <;> cases h
  · -- the bank call
    split at h
    · cases h
    · split at h <;> cases h
  · split at h <;> cases h
  · split at h <;> cases h
  · -- `_handle_exception`
    split at h
    · cases h
    · split at h
      · cases h
      · cases h; exact .inr (.inr ⟨Nat.lt_of_not_le ‹_›, rfl⟩)
  · cases h
  · cases h; exact .inl rfl

namespace System

-- No exhausted execution has raised.
def ExhaustedReturn (s : System) : Prop :=
  ∀ x ∈ s.running, maxRetries ≤ x.retries → ∀ e, x.stage ≠ .raised e

section Exhausted

variable {s : System}

-- A step whose `get_db()` succeeds keeps it, and adds no DLQ message.
theorem ExhaustedReturn.step (h : s.ExhaustedReturn) (a : Action)
    (ha : ∀ i input, a = .advance i input → input.session = none) :
    (s.step a).ExhaustedReturn ∧ (s.step a).dlq.Sublist s.dlq := by
  have erased : ∀ i, ExhaustedReturn { s with running := s.running.eraseIdx i } :=
    fun i x hx => h x (List.mem_of_mem_eraseIdx hx)
  cases a with
  | submit => exact ⟨h, .refl _⟩
  | deliver i redeliver =>
    simp only [System.step]
    split
    · exact ⟨h, .refl _⟩
    · refine ⟨fun x hx => ?_, .refl _⟩
      rcases List.mem_append.mp hx with hx | hx
      · exact h x hx
      · rw [List.mem_singleton.mp hx]; intro _ e he; cases he
  | advance i input =>
    simp only [System.step]
    split
    · exact ⟨h, .refl _⟩
    rename_i x hx
    refine ⟨fun y hy hr e he => ?_, .refl _⟩
    rcases List.mem_or_eq_of_mem_set hy with hy | rfl
    · exact h y hy hr e he
    -- the stepped execution: its stage was not raised, and its session was given
    rcases advance_raised he with hs | ⟨-, hs⟩ | ⟨hlt, -⟩
    · exact h x (List.getElem?_mem hx) hr e hs
    · rw [ha i input rfl] at hs; cases hs
    · exact absurd hr (Nat.not_le.mpr hlt)
  | settle i =>
    simp only [System.step]
    split
    · exact ⟨h, .refl _⟩
    rename_i x hx
    split
    · exact ⟨erased i, .refl _⟩
    · split
      · exact ⟨erased i, .refl _⟩
      · -- `on_failure`: the execution raised with no retry left, which the invariant excludes
        rename_i e hst _ hretry
        have hr : maxRetries ≤ x.retries := by
          by_contra hlt
          simp only [celeryRetry, hst, if_pos (Nat.lt_of_not_le hlt)] at hretry
          cases hretry
        exact absurd hst (h x (List.getElem?_mem hx) hr e)
    · exact ⟨h, .refl _⟩
  | replay i => simp only [System.step]; split <;> exact ⟨h, .refl _⟩
  | callback => exact ⟨h, .refl _⟩
  | hook k outcomes => simp only [System.step]; split <;> exact ⟨h, .refl _⟩

theorem ExhaustedReturn.run (h : s.ExhaustedReturn) (actions : List Action)
    (ha : ∀ i input, .advance i input ∈ actions → input.session = none) :
    (s.run actions).ExhaustedReturn ∧ (s.run actions).dlq.Sublist s.dlq := by
  induction actions generalizing s with
  | nil => exact ⟨h, .refl _⟩
  | cons a rest ih =>
    obtain ⟨h₁, hd₁⟩ := h.step a fun i input he => ha i input (he ▸ .head _)
    obtain ⟨h₂, hd₂⟩ := ih h₁ fun i input hm => ha i input (.tail _ hm)
    exact ⟨h₂, hd₂.trans hd₁⟩

end Exhausted

end System

-- The bank's answer to a call it did not finish in time.
def timeoutResponse : BankResponse :=
  ⟨.Timeout, none, some "Bank processing timeout", some "BANK_TIMEOUT"⟩

def timeoutInput : Input := ⟨.clean, none, .response timeoutResponse⟩

-- One execution whose bank call times out: `update_status`, the bank call, and
-- `_handle_exception` in the world `handling`; then Celery settles it.
def timedOutExecution (handling : Input) : List Action :=
  [.deliver 0 false, .advance 0 okInput, .advance 0 timeoutInput, .advance 0 handling, .settle 0]

-- A deposit of 50.00 whose bank call times out on each of its four executions; `review` is
-- the world of the last one's `_mark_for_review`.
def exhaustedDeposit (review : Input) : List Action :=
  .submit .Deposit .clean 0 0 5000 "USD" "task-1" ::
    (timedOutExecution okInput ++ timedOutExecution okInput ++ timedOutExecution okInput ++
      timedOutExecution review)

-- The fourth execution returns PENDING_REVIEW, and the job never reaches the DLQ.
set_option maxRecDepth 8000 in
theorem exhausted_job_not_dead_lettered :
    (System.run (.init fundedDb) (exhaustedDeposit okInput)).started = [0, 0, 0, 0] ∧
    ((System.run (.init fundedDb) (exhaustedDeposit okInput).dropLast).running.map Execution.stage) =
      [.returned (.pendingReview 0 "Bank BankResponseStatus.TIMEOUT: Bank processing timeout" false)] ∧
    (System.run (.init fundedDb) (exhaustedDeposit okInput)).dlq = [] ∧
    ((System.run (.init fundedDb) (exhaustedDeposit okInput)).db.transactions 0).map
      Transaction.status = some .PendingReview := by
  decide

-- `_mark_for_review`'s commit raises.
def reviewCommitFails : Input :=
  ⟨{ Faults.clean with commit := some ⟨.DatabaseError, "server closed the connection unexpectedly"⟩ },
    none, .response okResponse⟩

-- A TIMEOUT whose message says "not found": `_handle_exception` takes it for a missing row.
def notFoundTimeout : Input :=
  ⟨.clean, none, .response ⟨.Timeout, none, some "Upstream host not found", some "BANK_TIMEOUT"⟩⟩

def misreadTimeout : List Action :=
  [.submit .Deposit .clean 0 0 5000 "USD" "task-1", .deliver 0 false, .advance 0 okInput,
    .advance 0 notFoundTimeout, .advance 0 okInput, .settle 0]

-- In both runs no message or execution of the job is left and the row stays PROCESSING.
set_option maxRecDepth 8000 in
theorem job_left_processing :
    (System.run (.init fundedDb) (exhaustedDeposit reviewCommitFails)).queue = [] ∧
    (System.run (.init fundedDb) (exhaustedDeposit reviewCommitFails)).running = [] ∧
    (System.run (.init fundedDb) (exhaustedDeposit reviewCommitFails)).dlq = [] ∧
    ((System.run (.init fundedDb) (exhaustedDeposit reviewCommitFails)).db.transactions 0).map
      Transaction.status = some .Processing ∧
    (System.run (.init fundedDb) misreadTimeout).queue = [] ∧
    (System.run (.init fundedDb) misreadTimeout).running = [] ∧
    (System.run (.init fundedDb) misreadTimeout).dlq = [] ∧
    ((System.run (.init fundedDb) misreadTimeout).db.transactions 0).map Transaction.status =
      some .Processing := by
  decide

end PaymentGateway.Worker
