import PaymentGateway.Ledger.Model

namespace PaymentGateway.Ledger

-- `AccountRepository.add_balance` and `subtract_balance`, before the flush.
def addBalance (account : Account) (amount : Int) : Except Error Account :=
  if amount ≤ 0 then .error amountNotPositive
  else .ok { account with balance := account.balance + amount }

def subtractBalance (account : Account) (amount : Int) : Except Error Account :=
  if amount ≤ 0 then .error amountNotPositive
  else if account.balance < amount then .error (insufficientBalance account.balance amount)
  else .ok { account with balance := account.balance - amount }

-- A service call leaves the committed rows and the exception it raised, if any. Work
-- flushed but not committed when the exception is raised is rolled back.
abbrev Outcome := Db × Option Error

def webhookEvent (status : TransactionStatus) : String :=
  if status = .Success then "transaction.completed" else "transaction.failed"

-- The row `WebhookRepository.create_delivery` adds (`max_attempts` defaults to 5).
def newDelivery (id transactionId : Nat) (url : String) (transaction : Transaction)
    (account : Account) : WebhookDelivery :=
  { id, transactionId, webhookUrl := url,
    payload := ⟨webhookEvent transaction.status, transaction.status, transaction.amount,
      account.balance⟩,
    status := .Pending, attemptCount := 0, maxAttempts := 5 }

-- `_trigger_webhook_if_configured`, run after the status commit of a completion or a failure.
def triggerWebhookIfConfigured (f : Faults) (transactionId : Nat) (transaction : Transaction)
    (account : Account) (db : Db) : Outcome :=
  match db.users account.userId with
  | none => (db, none)
  | some user =>
    match user.webhookUrl with
    | none => (db, none)
    | some url =>
      if url.isEmpty then (db, none)
      else
        match f.webhookCommit with
        | some e => (db, some e)
        | none =>
          let stored := db.notify (newDelivery db.nextId transactionId url transaction account)
          match f.enqueue with
          | some e => (stored, some e)
          | none => (stored.enqueueWebhook db.nextId, none)

-- The repository call each completion makes.
def moveBalance : TransactionType → Account → Int → Except Error Account
  | .Deposit => addBalance
  | .Withdrawal => subtractBalance

-- `_complete_deposit_locked` and `_complete_withdrawal_locked`, which differ only in the
-- repository call that moves the balance.
def completeLocked (service : TransactionType) (f : Faults)
    (transactionId : Nat) (transaction : Transaction) (bankTransactionId : String)
    (bankResponse : Option String) (db : Db) : Outcome :=
  match db.accounts transaction.accountId with
  | none => (db, some (accountNotFound transaction.accountId))
  | some account =>
    match moveBalance service account transaction.amount with
    | .error e => (db, some e)
    | .ok moved =>
      match f.commit with
      | some e => (db, some e)
      | none =>
        let completed := { transaction with
          status := .Success, bankTransactionId := some bankTransactionId, bankResponse }
        triggerWebhookIfConfigured f transactionId completed moved
          (((db.setAccount transaction.accountId moved).setTransaction transactionId
            completed).record (.completed transactionId service))

def completeDepositLocked := completeLocked .Deposit

def completeWithdrawalLocked := completeLocked .Withdrawal

-- `complete_deposit` and `complete_withdrawal`: with a cache client the account's
-- `SyncDistributedLock` is taken first.
def complete (service : TransactionType) (redis : Bool) (f : Faults)
    (transactionId : Nat) (bankTransactionId : String) (bankResponse : Option String)
    (db : Db) : Outcome :=
  match db.transactions transactionId with
  | none => (db, some (transactionNotFound transactionId))
  | some transaction =>
    if redis && !f.lockAcquired then (db, some (accountLocked transaction.accountId))
    else completeLocked service f transactionId transaction bankTransactionId bankResponse db

def completeDeposit := complete .Deposit

def completeWithdrawal := complete .Withdrawal

-- `fail_deposit` and `fail_withdrawal` (they differ only in their metrics labels).
def failTransaction (f : Faults) (transactionId : Nat) (errorCode errorMessage : String)
    (bankResponse : Option String) (db : Db) : Outcome :=
  match db.transactions transactionId with
  | none => (db, some (transactionNotFound transactionId))
  | some transaction =>
    match f.commit with
    | some e => (db, some e)
    | none =>
      let failed := { transaction with
        status := .Failed, errorCode := some errorCode, errorMessage := some errorMessage,
        bankResponse }
      let stored := (db.setTransaction transactionId failed).record (.failed transactionId)
      match db.accounts transaction.accountId with
      | none => (stored, none)
      | some account => triggerWebhookIfConfigured f transactionId failed account stored

def failDeposit := failTransaction

def failWithdrawal := failTransaction

def updateStatus (f : Faults) (transactionId : Nat) (status : TransactionStatus)
    (db : Db) : Outcome :=
  match db.transactions transactionId with
  | none => (db, some (transactionNotFound transactionId))
  | some transaction =>
    match f.commit with
    | some e => (db, some e)
    | none =>
      ((db.setTransaction transactionId { transaction with status }).record
        (.statusSet transactionId status), none)

def markPendingReview (f : Faults) (transactionId : Nat) (reason : String)
    (bankResponse : Option String) (db : Db) : Outcome :=
  match db.transactions transactionId with
  | none => (db, some (transactionNotFound transactionId))
  | some transaction =>
    match f.commit with
    | some e => (db, some e)
    | none =>
      ((db.setTransaction transactionId { transaction with
        status := .PendingReview, errorMessage := some reason, bankResponse }).record
          (.reviewed transactionId), none)

-- The check constraint `amount_positive` rejecting the insert at the flush.
def amountCheckViolation : Error :=
  ⟨.DatabaseError,
    "new row for relation \"transactions\" violates check constraint \"amount_positive\""⟩

-- The insert shared by `create_pending_deposit` and `create_pending_withdrawal`; the new
-- row takes the id `db.nextId`.
def insertPending (f : Faults) (accountId : Nat) (transactionType : TransactionType)
    (amount : Int) (currency : String) (idempotencyKey celeryTaskId : Option String)
    (db : Db) : Outcome :=
  if amount ≤ 0 then (db, some amountCheckViolation)
  else
    match f.commit with
    | some e => (db, some e)
    | none =>
      let created : Transaction :=
        { accountId, transactionType, amount, currency, status := .Pending,
          bankTransactionId := none, bankResponse := none, errorCode := none,
          errorMessage := none, idempotencyKey, celeryTaskId }
      ((db.insert created).record (.inserted db.nextId), none)

def createPendingDeposit (f : Faults) (accountId : Nat) (amount : Int) (currency : String)
    (idempotencyKey celeryTaskId : Option String) (db : Db) : Outcome :=
  match db.accounts accountId with
  | none => (db, some (accountNotFound accountId))
  | some _ => insertPending f accountId .Deposit amount currency idempotencyKey celeryTaskId db

-- Reads the account under `FOR UPDATE` and refuses an amount above the balance; nothing
-- is reserved.
def createPendingWithdrawal (f : Faults) (accountId : Nat) (amount : Int) (currency : String)
    (idempotencyKey celeryTaskId : Option String) (db : Db) : Outcome :=
  match db.accounts accountId with
  | none => (db, some (accountNotFound accountId))
  | some account =>
    if account.balance < amount then (db, some (insufficientBalance account.balance amount))
    else insertPending f accountId .Withdrawal amount currency idempotencyKey celeryTaskId db

-- The public methods of `DepositService` and `WithdrawalService`, each one database
-- transaction of the services.
inductive Call
  | createPendingDeposit (accountId : Nat) (amount : Int) (currency : String)
      (idempotencyKey celeryTaskId : Option String)
  | createPendingWithdrawal (accountId : Nat) (amount : Int) (currency : String)
      (idempotencyKey celeryTaskId : Option String)
  | updateStatus (transactionId : Nat) (status : TransactionStatus)
  | markPendingReview (transactionId : Nat) (reason : String) (bankResponse : Option String)
  | completeDeposit (redis : Bool) (transactionId : Nat) (bankTransactionId : String)
      (bankResponse : Option String)
  | completeWithdrawal (redis : Bool) (transactionId : Nat) (bankTransactionId : String)
      (bankResponse : Option String)
  | failDeposit (transactionId : Nat) (errorCode errorMessage : String)
      (bankResponse : Option String)
  | failWithdrawal (transactionId : Nat) (errorCode errorMessage : String)
      (bankResponse : Option String)
  deriving DecidableEq, Repr

def perform (f : Faults) : Call → Db → Outcome
  | .createPendingDeposit a m c k t => createPendingDeposit f a m c k t
  | .createPendingWithdrawal a m c k t => createPendingWithdrawal f a m c k t
  | .updateStatus i s => updateStatus f i s
  | .markPendingReview i r b => markPendingReview f i r b
  | .completeDeposit r i b m => completeDeposit r f i b m
  | .completeWithdrawal r i b m => completeWithdrawal r f i b m
  | .failDeposit i c m b => failDeposit f i c m b
  | .failWithdrawal i c m b => failWithdrawal f i c m b

-- Any interleaving of service calls, each its own database transaction.
def runCalls : Db → List (Call × Faults) → Db
  | db, [] => db
  | db, (call, f) :: rest => runCalls (perform f call db).1 rest

end PaymentGateway.Ledger
