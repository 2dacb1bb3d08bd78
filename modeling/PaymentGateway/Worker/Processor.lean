import PaymentGateway.Ledger.Services

namespace PaymentGateway.Worker

open PaymentGateway.Ledger

inductive BankResponseStatus
  | Success
  | Failed
  | Timeout
  | InsufficientFunds
  | Unavailable
  deriving DecidableEq, Repr

-- An f-string renders a `str`-mixin enum member as `Class.NAME` (Python 3.11 and later).
def BankResponseStatus.text : BankResponseStatus → String
  | .Success => "BankResponseStatus.SUCCESS"
  | .Failed => "BankResponseStatus.FAILED"
  | .Timeout => "BankResponseStatus.TIMEOUT"
  | .InsufficientFunds => "BankResponseStatus.INSUFFICIENT_FUNDS"
  | .Unavailable => "BankResponseStatus.UNAVAILABLE"

structure BankResponse where
  status : BankResponseStatus
  transactionId : Option String
  message : Option String
  errorCode : Option String
  deriving DecidableEq, Repr

-- What `asyncio.run(strategy.call_bank(...))` gives back.
inductive BankOutcome
  | response (r : BankResponse)
  | raised (e : Error)
  deriving DecidableEq, Repr

-- Python's `value or default` on an optional string.
def pyOr (value : Option String) (default : String) : String :=
  match value with
  | some s => if s.isEmpty then default else s
  | none => default

-- `str(value)` of an optional string.
def pyStr : Option String → String
  | some s => s
  | none => "None"

-- A lower-case hex digit, as Python's escapes write it.
def hexDigit (n : Nat) : Char := if n < 10 then Char.ofNat (48 + n) else Char.ofNat (87 + n)

-- One character of a `str`'s `repr` quoted with `q`: the quote and the backslash escaped, tab,
-- newline and return by name, and the Latin-1 characters Python does not print as
-- `\xhh`. Other characters are written as they are.
def reprChar (q : Char) (c : Char) : String :=
  if c = q ∨ c = '\\' then String.mk ['\\', c]
  else if c = '\t' then "\\t"
  else if c = '\n' then "\\n"
  else if c = '\r' then "\\r"
  else if c.toNat < 0x20 ∨ (0x7f ≤ c.toNat ∧ c.toNat ≤ 0xa0) ∨ c.toNat = 0xad then
    String.mk ['\\', 'x', hexDigit (c.toNat / 16), hexDigit (c.toNat % 16)]
  else c.toString

-- `repr(s)` of a `str`: in single quotes, unless it holds one and no double quote.
def pyRepr (s : String) : String :=
  let q := if '\x27' ∈ s.data ∧ '\x22' ∉ s.data then '\x22' else '\x27'
  q.toString ++ String.join (s.data.map (reprChar q)) ++ q.toString

-- `repr` of an optional string.
def pyReprOpt : Option String → String
  | some s => pyRepr s
  | none => "None"

-- The member's value.
def BankResponseStatus.value : BankResponseStatus → String
  | .Success => "SUCCESS"
  | .Failed => "FAILED"
  | .Timeout => "TIMEOUT"
  | .InsufficientFunds => "INSUFFICIENT_FUNDS"
  | .Unavailable => "UNAVAILABLE"

-- `repr` of a member: `<BankResponseStatus.SUCCESS: 'SUCCESS'>`.
def BankResponseStatus.reprText (s : BankResponseStatus) : String :=
  "<" ++ s.text ++ ": " ++ pyRepr s.value ++ ">"

-- `str(bank_response)`: the dataclass's generated `__repr__`, each field by its `repr`.
def BankResponse.text (r : BankResponse) : String :=
  "BankResponse(status=" ++ r.status.reprText ++ ", transaction_id=" ++ pyReprOpt r.transactionId ++
    ", message=" ++ pyReprOpt r.message ++ ", error_code=" ++ pyReprOpt r.errorCode ++ ")"

example : (BankResponse.mk .Failed none (some "Card declined") (some "CARD_DECLINED")).text =
    "BankResponse(status=<BankResponseStatus.FAILED: 'FAILED'>, transaction_id=None, " ++
      "message='Card declined', error_code='CARD_DECLINED')" := by decide

example : pyRepr "it\x27s" = "\x22it\x27s\x22" ∧ pyRepr "a\tb\\" = "\x27a\\tb\\\\\x27" := by decide

-- The exception `_handle_transient_error` raises.
def transientError (r : BankResponse) : Error :=
  ⟨.Exception, "Bank " ++ r.status.text ++ ": " ++ pyStr r.message⟩

-- `max_retries=3` of `process_deposit` and `process_withdrawal`.
def maxRetries : Nat := 3

-- The arguments of a `process_deposit` / `process_withdrawal` message; `kind` names the task,
-- and with it the strategy.
structure Job where
  kind : TransactionType
  transactionId : Nat
  accountId : Nat
  amount : Int
  userId : Nat
  deriving DecidableEq, Repr

def typeName : TransactionType → String
  | .Deposit => "deposit"
  | .Withdrawal => "withdrawal"

-- `strategy.complete_transaction`, as called from `_handle_success`.
def completeTransaction (kind : TransactionType) (tid : Nat) (r : BankResponse) : Call :=
  match kind with
  | .Deposit => .completeDeposit false tid (r.transactionId.getD "") (some (r.message.getD ""))
  | .Withdrawal =>
    .completeWithdrawal false tid (r.transactionId.getD "") (some (r.message.getD ""))

-- `strategy.fail_transaction`, as called from `_handle_permanent_failure`.
def failTransactionCall (kind : TransactionType) (tid : Nat) (r : BankResponse) : Call :=
  match kind with
  | .Deposit => .failDeposit tid (pyOr r.errorCode "BANK_ERROR")
      (pyOr r.message "Bank processing failed") (some r.text)
  | .Withdrawal => .failWithdrawal tid (pyOr r.errorCode "BANK_ERROR")
      (pyOr r.message "Bank processing failed") (some r.text)

-- The reason `_mark_for_review` writes.
def reviewReason (kind : TransactionType) (e : Error) : String :=
  "Max retries exceeded: " ++ e.message ++ "." ++
    (if kind = .Withdrawal then " Balance reserved, requires manual review." else "")

-- The dict `process` returns.
inductive ProcessResult
  | success (transactionId : Nat) (bankTransactionId : Option String)
  | failed (transactionId : Nat) (error : String) (refunded : Bool)
  | notFound (transactionId : Nat)
  | pendingReview (transactionId : Nat) (error : String) (note : Bool)
  deriving DecidableEq, Repr

-- Where an execution of `process` stands: before `update_status`, before the bank call,
-- before the completion or the failure call, in `_handle_exception`, or finished.
inductive Stage
  | start
  | calling
  | completing (r : BankResponse)
  | failing (r : BankResponse)
  | handling (e : Error)
  | returned (result : ProcessResult)
  | raised (e : Error)
  deriving DecidableEq, Repr

-- One execution of the task; `retries` is Celery's `request.retries`.
structure Execution where
  job : Job
  retries : Nat
  stage : Stage
  deriving DecidableEq, Repr

-- What the world supplies to one step: the faults of the service call, whether
-- `task_instance.get_db()` raises, and what the bank call returns.
structure Input where
  faults : Faults
  session : Option Error
  bank : BankOutcome
  deriving DecidableEq, Repr

-- One step of `GenericTransactionProcessor.process`: the rows after the step and the next
-- stage. Every change to the rows is one service call.
def advance (x : Execution) (i : Input) (db : Db) : Db × Stage :=
  let tid := x.job.transactionId
  match x.stage with
  | .start =>
    match i.session with
    | some e => (db, .raised e)
    | none =>
      let (db', err) := perform i.faults (.updateStatus tid .Processing) db
      (db', match err with
        | some e => .handling e
        | none => .calling)
  | .calling =>
    (db, match i.bank with
      | .raised e => .handling e
      | .response r =>
        match r.status with
        | .Success => .completing r
        | .Timeout | .Unavailable => .handling (transientError r)
        | .Failed | .InsufficientFunds => .failing r)
  | .completing r =>
    let (db', err) := perform i.faults (completeTransaction x.job.kind tid r) db
    (db', match err with
      | some e => .handling e
      | none => .returned (.success tid r.transactionId))
  | .failing r =>
    let (db', err) := perform i.faults (failTransactionCall x.job.kind tid r) db
    (db', match err with
      | some e => .handling e
      | none => .returned (.failed tid (pyOr r.message "Bank processing failed")
          (x.job.kind = .Withdrawal)))
  | .handling e =>
    if mentionsNotFound e.message then (db, .returned (.notFound tid))
    else if maxRetries ≤ x.retries then
      -- `_mark_for_review` opens its own session and only logs its own failure.
      let db' := match i.session with
        | some _ => db
        | none => (perform i.faults (.markPendingReview tid (reviewReason x.job.kind e) none) db).1
      (db', .returned (.pendingReview tid e.message (x.job.kind = .Withdrawal)))
    else (db, .raised e)
  | .returned _ | .raised _ => (db, x.stage)

-- The service call a step makes, if any.
def callOf (x : Execution) (i : Input) : Option Call :=
  let tid := x.job.transactionId
  match x.stage with
  | .start => if i.session.isSome then none else some (.updateStatus tid .Processing)
  | .completing r => some (completeTransaction x.job.kind tid r)
  | .failing r => some (failTransactionCall x.job.kind tid r)
  | .handling e =>
    if mentionsNotFound e.message || x.retries < maxRetries || i.session.isSome then none
    else some (.markPendingReview tid (reviewReason x.job.kind e) none)
  | .calling | .returned _ | .raised _ => none

-- The rows after a step are those after its service call.
theorem advance_db (x : Execution) (i : Input) (db : Db) :
    (advance x i db).1 = match callOf x i with
      | some c => (perform i.faults c db).1
      | none => db := by
  rcases x with ⟨job, retries, _ | _ | r | r | e | _ | _⟩
  · cases h : i.session <;> simp [advance, callOf, h]
  · rfl
  · simp only [advance, callOf]
  · simp only [advance, callOf]
  · by_cases hn : mentionsNotFound e.message
    · simp [advance, callOf, hn]
    by_cases hr : retries < maxRetries
    · simp [advance, callOf, hn, hr, show ¬ maxRetries ≤ retries by omega]
    · cases h : i.session <;> simp [advance, callOf, hn, hr, h, show maxRetries ≤ retries by omega]
  · rfl
  · rfl

-- What Celery does with a finished execution: `autoretry_for=(Exception,)` re-queues the
-- message with `retries + 1` while `retries < max_retries`.
def celeryRetry (x : Execution) : Option (Job × Nat) :=
  match x.stage with
  | .raised _ => if x.retries < maxRetries then some (x.job, x.retries + 1) else none
  | _ => none

theorem celeryRetry_eq_some {x : Execution} {m : Job × Nat} (h : celeryRetry x = some m) :
    (∃ e, x.stage = .raised e) ∧ x.retries < maxRetries ∧ m = (x.job, x.retries + 1) := by
  unfold celeryRetry at h
  split at h
  · split at h
    · cases h; exact ⟨⟨_, ‹_›⟩, ‹_›, rfl⟩
    · cases h
  · cases h

end PaymentGateway.Worker
