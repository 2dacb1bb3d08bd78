import PaymentGateway.Worker.Processor
import PaymentGateway.Ledger.Effects

namespace PaymentGateway.Api

open PaymentGateway.Ledger PaymentGateway.Worker

-- What can raise in `create_transaction` after the service call: `task_function` (the
-- job's enqueue) and the commit of `celery_task_id`.
structure CreateFaults where
  service : Faults
  enqueue : Option Error
  taskCommit : Option Error
  deriving DecidableEq, Repr

def CreateFaults.clean : CreateFaults := ⟨.clean, none, none⟩

inductive CreateResponse
  | accepted (transactionId : Nat)
  | badRequest (detail : String)
  | serverError (detail : String)
  deriving DecidableEq, Repr

def CreateResponse.statusCode : CreateResponse → Nat
  | .accepted _ => 202
  | .badRequest _ => 400
  | .serverError _ => 500

-- The service call of `create_deposit` / `create_withdrawal`; the endpoints pass no
-- idempotency key and no task id.
def createCall (kind : TransactionType) (accountId : Nat) (amount : Int) (currency : String) :
    Call :=
  match kind with
  | .Deposit => .createPendingDeposit accountId amount currency none none
  | .Withdrawal => .createPendingWithdrawal accountId amount currency none none

def creationFailed (kind : TransactionType) (e : Error) : CreateResponse :=
  .serverError ("Failed to create " ++ typeName kind ++ ": " ++ e.message)

-- `create_transaction` behind `create_deposit` / `create_withdrawal`: the rows after it, the
-- job it enqueued, and the response. `taskId` is the id Celery gives the job.
def createTransaction (kind : TransactionType) (f : CreateFaults) (accountId userId : Nat)
    (amount : Int) (currency taskId : String) (db : Db) : Db × Option Job × CreateResponse :=
  let tid := db.nextId
  match perform f.service (createCall kind accountId amount currency) db with
  | (db', some e) =>
    if e.kind = .InsufficientBalanceError then (db', none, .badRequest e.message)
    else (db', none, creationFailed kind e)
  | (db', none) =>
    match f.enqueue with
    | some e => (db', none, creationFailed kind e)
    | none =>
      let job : Job := ⟨kind, tid, accountId, amount, userId⟩
      match f.taskCommit, db'.transactions tid with
      | none, some t =>
        ((db'.setTransaction tid { t with celeryTaskId := some taskId }).record
          (.taskRecorded tid), some job, .accepted tid)
      | some e, _ => (db', some job, creationFailed kind e)
      | none, none => (db', some job, .accepted tid)

-- A creation the service accepted inserted its row at the fresh id.
theorem createCall_ok {kind : TransactionType} {f : Faults} {acc : Nat} {amount : Int}
    {currency : String} {db : Db} (h : (perform f (createCall kind acc amount currency) db).2 = none) :
    (perform f (createCall kind acc amount currency) db).1 =
      (db.insert (pendingRow acc kind amount currency none none)).record (.inserted db.nextId) := by
  cases kind
  · exact createPendingDeposit_ok _ _ h
  · exact createPendingWithdrawal_ok _ _ h

section Create

variable (kind : TransactionType) (f : CreateFaults) (acc user : Nat) (amount : Int)
  (cur task : String) (db : Db)

-- The rows after a creation: the service call's, and then possibly the task id's commit.
theorem createTransaction_db :
    (createTransaction kind f acc user amount cur task db).1 =
        (perform f.service (createCall kind acc amount cur) db).1 ∨
    ∃ t, (perform f.service (createCall kind acc amount cur) db).1.transactions db.nextId = some t ∧
      (createTransaction kind f acc user amount cur task db).1 =
        (((perform f.service (createCall kind acc amount cur) db).1.setTransaction db.nextId
          { t with celeryTaskId := some task }).record (.taskRecorded db.nextId)) := by
  unfold createTransaction
  rcases perform f.service (createCall kind acc amount cur) db with ⟨db', _ | e⟩
  · rcases f.enqueue with _ | e
    · simp only
      split
      · exact .inr ⟨_, ‹_›, rfl⟩
      all_goals exact .inl rfl
    · exact .inl rfl
  · exact .inl (by simp only; split <;> rfl)

-- The job a creation enqueues is for the row it inserted, of the kind asked for.
theorem createTransaction_job {j : Job}
    (h : (createTransaction kind f acc user amount cur task db).2.1 = some j) :
    j = ⟨kind, db.nextId, acc, amount, user⟩ ∧
    ∃ t, (createTransaction kind f acc user amount cur task db).1.transactions db.nextId = some t ∧
      t.transactionType = kind := by
  unfold createTransaction at h ⊢
  rcases hp : perform f.service (createCall kind acc amount cur) db with ⟨db', _ | e⟩ <;>
    rw [hp] at h <;> simp only at h ⊢
  · have hrow := @createCall_ok kind f.service acc amount cur db (by rw [hp])
    rw [hp] at hrow
    subst hrow
    cases he : f.enqueue <;> cases hc : f.taskCommit <;> simp_all [pendingRow]
  · split at h <;> cases h
end Create

-- The body of `POST /webhooks/bank-callback`.
structure CallbackPayload where
  transactionId : Nat
  bankTransactionId : Option String
  status : BankResponseStatus
  message : Option String
  errorCode : Option String
  timestamp : Int
  deriving DecidableEq, Repr

-- `MAX_TIMESTAMP_DIFF`.
def maxTimestampDiff : Nat := 300

-- `str(payload)`: pydantic's `field=repr(value)` pairs, joined by spaces. The transaction id is a
-- number here where the code has a `UUID`, and its `repr` is written `UUID('<id>')`.
def CallbackPayload.text (p : CallbackPayload) : String :=
  "transaction_id=UUID(" ++ pyRepr (toString p.transactionId) ++ ") bank_transaction_id=" ++
    pyReprOpt p.bankTransactionId ++ " status=" ++ p.status.reprText ++ " message=" ++
    pyReprOpt p.message ++ " error_code=" ++ pyReprOpt p.errorCode ++ " timestamp=" ++
    toString p.timestamp

example : (CallbackPayload.mk 7 none .Failed (some "Card declined") (some "CARD_DECLINED") 1700000000).text =
    "transaction_id=UUID(\x277\x27) bank_transaction_id=None status=<BankResponseStatus.FAILED: \x27FAILED\x27> " ++
      "message=\x27Card declined\x27 error_code=\x27CARD_DECLINED\x27 timestamp=1700000000" := rfl

-- The service call `bank_callback` routes a verified callback to.
def callbackCall (t : Transaction) (p : CallbackPayload) : Call :=
  match t.transactionType, p.status with
  | .Deposit, .Success =>
    .completeDeposit false p.transactionId (pyOr p.bankTransactionId "UNKNOWN") p.message
  | .Deposit, _ =>
    .failDeposit p.transactionId (pyOr p.errorCode "BANK_ERROR")
      (pyOr p.message "Bank processing failed") (some p.text)
  | .Withdrawal, .Success =>
    .completeWithdrawal false p.transactionId (pyOr p.bankTransactionId "UNKNOWN") p.message
  | .Withdrawal, _ =>
    .failWithdrawal p.transactionId (pyOr p.errorCode "BANK_ERROR")
      (pyOr p.message "Bank processing failed") (some p.text)

-- `bank_callback`: the rows after it and the status code. `signatureValid` is the result of
-- `verify_webhook_signature` on the raw body.
def bankCallback (now : Int) (signatureValid : Bool) (p : CallbackPayload) (f : Faults)
    (db : Db) : Db × Nat :=
  if maxTimestampDiff < (now - p.timestamp).natAbs then (db, 400)
  else if !signatureValid then (db, 401)
  else
    match db.transactions p.transactionId with
    | none => (db, 404)
    | some t =>
      match perform f (callbackCall t p) db with
      | (db', some _) => (db', 500)
      | (db', none) => (db', 200)

-- The rows after a callback: unchanged, or those after the service call it routed to.
theorem bankCallback_db (now : Int) (valid : Bool) (p : CallbackPayload) (f : Faults) (db : Db) :
    (bankCallback now valid p f db).1 = db ∨
    ∃ t, db.transactions p.transactionId = some t ∧
      (bankCallback now valid p f db).1 = (perform f (callbackCall t p) db).1 := by
  unfold bankCallback
  split
  · exact .inl rfl
  split
  · exact .inl rfl
  split
  · exact .inl rfl
  · rename_i t ht
    refine .inr ⟨t, ht, ?_⟩
    rcases perform f (callbackCall t p) db with ⟨db', _ | e⟩ <;> rfl

end PaymentGateway.Api
