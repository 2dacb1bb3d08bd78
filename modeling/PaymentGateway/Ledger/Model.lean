import Mathlib.Logic.Function.Basic
import Mathlib.Data.List.Infix

namespace PaymentGateway.Ledger

inductive TransactionType
  | Deposit
  | Withdrawal
  deriving DecidableEq, Repr

inductive TransactionStatus
  | Pending
  | Processing
  | Success
  | Failed
  | PendingReview
  deriving DecidableEq, Repr

-- The statuses the spec's diagram calls terminal.
def TransactionStatus.isTerminal : TransactionStatus → Bool
  | .Success | .Failed | .PendingReview => true
  | .Pending | .Processing => false

-- Money is kept in hundredths: the columns are `Numeric(18, 2)`.
structure Transaction where
  accountId : Nat
  transactionType : TransactionType
  amount : Int
  currency : String
  status : TransactionStatus
  bankTransactionId : Option String
  bankResponse : Option String
  errorCode : Option String
  errorMessage : Option String
  idempotencyKey : Option String
  celeryTaskId : Option String
  deriving DecidableEq, Repr

structure Account where
  userId : Nat
  balance : Int
  deriving DecidableEq, Repr

structure User where
  webhookUrl : Option String
  deriving DecidableEq, Repr

inductive WebhookDeliveryStatus
  | Pending
  | Sending
  | Success
  | Failed
  deriving DecidableEq, Repr

-- The part of the JSON payload snapshot that depends on the rows: the event name, the
-- transaction's status and amount, and the account's balance.
structure Payload where
  event : String
  status : TransactionStatus
  amount : Int
  balance : Int
  deriving DecidableEq, Repr

structure WebhookDelivery where
  id : Nat
  transactionId : Nat
  webhookUrl : String
  payload : Payload
  status : WebhookDeliveryStatus
  attemptCount : Nat
  maxAttempts : Nat
  deriving DecidableEq, Repr

-- A `webhook_deliveries` row with the columns `send_webhook_notification` writes besides those
-- `create_delivery` sets.
structure DeliveryRow extends WebhookDelivery where
  httpStatusCode : Option Nat
  responseBody : Option String
  errorMessage : Option String
  deriving DecidableEq, Repr

-- The row `create_delivery` flushes: nothing sent yet.
def DeliveryRow.created (d : WebhookDelivery) : DeliveryRow :=
  { toWebhookDelivery := d, httpStatusCode := none, responseBody := none, errorMessage := none }

@[simp] theorem DeliveryRow.created_toWebhookDelivery (d : WebhookDelivery) :
    (DeliveryRow.created d).toWebhookDelivery = d := rfl

-- One entry per database commit the services make, in commit order. It is a history
-- variable: no function of the code reads it.
inductive Commit
  | inserted (transactionId : Nat)
  | statusSet (transactionId : Nat) (status : TransactionStatus)
  | reviewed (transactionId : Nat)
  | completed (transactionId : Nat) (service : TransactionType)
  | failed (transactionId : Nat)
  | notified (transactionId deliveryId : Nat)
  | taskRecorded (transactionId : Nat)
  deriving DecidableEq, Repr

-- The committed rows, the ids given to `send_webhook_notification.delay`, and the next
-- fresh row id.
structure Db where
  users : Nat → Option User
  accounts : Nat → Option Account
  transactions : Nat → Option Transaction
  deliveries : List DeliveryRow
  webhookQueue : List Nat
  nextId : Nat
  journal : List Commit

inductive ErrorKind
  | ValueError
  | AccountNotFoundError
  | InsufficientBalanceError
  | ConcurrentUpdateError
  | DatabaseError
  | BrokerError
  | Exception
  deriving DecidableEq, Repr

-- A raised exception; `message` is `str(e)`.
structure Error where
  kind : ErrorKind
  message : String
  deriving DecidableEq, Repr

-- Which infrastructure call of a service raises. `commit` covers the session's queries and
-- its first commit; `webhookCommit` the second commit in `_trigger_webhook_if_configured`
-- and `enqueue` its `send_webhook_notification.delay`.
structure Faults where
  commit : Option Error
  lockAcquired : Bool
  webhookCommit : Option Error
  enqueue : Option Error
  deriving DecidableEq, Repr

def Faults.clean : Faults := ⟨none, true, none, none⟩

-- `str(Decimal)` of a `Numeric(18, 2)` value.
def moneyText (cents : Int) : String :=
  let digits := cents.natAbs
  let fraction := digits % 100
  (if cents < 0 then "-" else "") ++ toString (digits / 100) ++ "." ++
    (if fraction < 10 then "0" else "") ++ toString fraction

def transactionNotFound (transactionId : Nat) : Error :=
  ⟨.ValueError, s!"Transaction {transactionId} not found"⟩

def accountNotFound (accountId : Nat) : Error :=
  ⟨.AccountNotFoundError, s!"Account {accountId} not found"⟩

def accountLocked (accountId : Nat) : Error :=
  ⟨.ConcurrentUpdateError, s!"Account {accountId} is locked by another process"⟩

def amountNotPositive : Error := ⟨.ValueError, "Amount must be positive"⟩

def insufficientBalance (balance amount : Int) : Error :=
  ⟨.InsufficientBalanceError,
    "Insufficient balance. Available: " ++ moneyText balance ++ ", Required: " ++
      moneyText amount⟩

-- `"not found" in str(e).lower()`, the test `_handle_exception` makes first.
def mentionsNotFound (message : String) : Bool :=
  decide (List.IsInfix "not found".toList (message.toList.map Char.toLower))

namespace Db

variable (db : Db)

def setAccount (accountId : Nat) (account : Account) : Db :=
  { db with accounts := Function.update db.accounts accountId (some account) }

def setTransaction (transactionId : Nat) (transaction : Transaction) : Db :=
  { db with transactions := Function.update db.transactions transactionId (some transaction) }

def record (entry : Commit) : Db := { db with journal := db.journal ++ [entry] }

-- A new transaction row, under the next fresh id.
def insert (transaction : Transaction) : Db :=
  { db with
    transactions := Function.update db.transactions db.nextId (some transaction)
    nextId := db.nextId + 1 }

-- A new webhook delivery row, committed, under the next fresh id.
def notify (delivery : WebhookDelivery) : Db :=
  ({ db with deliveries := db.deliveries ++ [.created delivery], nextId := db.nextId + 1 } : Db).record
    (.notified delivery.transactionId delivery.id)

def enqueueWebhook (deliveryId : Nat) : Db :=
  { db with webhookQueue := db.webhookQueue ++ [deliveryId] }

-- The delivery row at position `k` as an execution of `send_webhook_notification` committed it.
def setDelivery (k : Nat) (row : DeliveryRow) : Db := { db with deliveries := db.deliveries.set k row }

def balanceOf (accountId : Nat) : Int := ((db.accounts accountId).map Account.balance).getD 0

@[simp] theorem setAccount_accounts (accountId : Nat) (account : Account) :
    (db.setAccount accountId account).accounts =
      Function.update db.accounts accountId (some account) := rfl

@[simp] theorem setAccount_transactions (accountId : Nat) (account : Account) :
    (db.setAccount accountId account).transactions = db.transactions := rfl

@[simp] theorem setAccount_users (accountId : Nat) (account : Account) :
    (db.setAccount accountId account).users = db.users := rfl

@[simp] theorem setAccount_deliveries (accountId : Nat) (account : Account) :
    (db.setAccount accountId account).deliveries = db.deliveries := rfl

@[simp] theorem setAccount_journal (accountId : Nat) (account : Account) :
    (db.setAccount accountId account).journal = db.journal := rfl

@[simp] theorem setAccount_nextId (accountId : Nat) (account : Account) :
    (db.setAccount accountId account).nextId = db.nextId := rfl

@[simp] theorem setTransaction_accounts (transactionId : Nat) (transaction : Transaction) :
    (db.setTransaction transactionId transaction).accounts = db.accounts := rfl

@[simp] theorem setTransaction_transactions (transactionId : Nat) (transaction : Transaction) :
    (db.setTransaction transactionId transaction).transactions =
      Function.update db.transactions transactionId (some transaction) := rfl

@[simp] theorem setTransaction_users (transactionId : Nat) (transaction : Transaction) :
    (db.setTransaction transactionId transaction).users = db.users := rfl

@[simp] theorem setTransaction_deliveries (transactionId : Nat) (transaction : Transaction) :
    (db.setTransaction transactionId transaction).deliveries = db.deliveries := rfl

@[simp] theorem setTransaction_journal (transactionId : Nat) (transaction : Transaction) :
    (db.setTransaction transactionId transaction).journal = db.journal := rfl

@[simp] theorem setTransaction_nextId (transactionId : Nat) (transaction : Transaction) :
    (db.setTransaction transactionId transaction).nextId = db.nextId := rfl

@[simp] theorem record_accounts (entry : Commit) : (db.record entry).accounts = db.accounts := rfl

@[simp] theorem record_transactions (entry : Commit) :
    (db.record entry).transactions = db.transactions := rfl

@[simp] theorem record_users (entry : Commit) : (db.record entry).users = db.users := rfl

@[simp] theorem record_deliveries (entry : Commit) :
    (db.record entry).deliveries = db.deliveries := rfl

@[simp] theorem record_journal (entry : Commit) :
    (db.record entry).journal = db.journal ++ [entry] := rfl

@[simp] theorem record_nextId (entry : Commit) : (db.record entry).nextId = db.nextId := rfl

@[simp] theorem insert_accounts (t : Transaction) : (db.insert t).accounts = db.accounts := rfl

@[simp] theorem insert_transactions (t : Transaction) :
    (db.insert t).transactions = Function.update db.transactions db.nextId (some t) := rfl

@[simp] theorem insert_users (t : Transaction) : (db.insert t).users = db.users := rfl

@[simp] theorem insert_deliveries (t : Transaction) : (db.insert t).deliveries = db.deliveries :=
  rfl

@[simp] theorem insert_journal (t : Transaction) : (db.insert t).journal = db.journal := rfl

@[simp] theorem insert_nextId (t : Transaction) : (db.insert t).nextId = db.nextId + 1 := rfl

@[simp] theorem notify_accounts (d : WebhookDelivery) : (db.notify d).accounts = db.accounts :=
  rfl

@[simp] theorem notify_transactions (d : WebhookDelivery) :
    (db.notify d).transactions = db.transactions := rfl

@[simp] theorem notify_users (d : WebhookDelivery) : (db.notify d).users = db.users := rfl

@[simp] theorem notify_deliveries (d : WebhookDelivery) :
    (db.notify d).deliveries = db.deliveries ++ [.created d] := rfl

@[simp] theorem notify_journal (d : WebhookDelivery) :
    (db.notify d).journal = db.journal ++ [.notified d.transactionId d.id] := rfl

@[simp] theorem notify_nextId (d : WebhookDelivery) : (db.notify d).nextId = db.nextId + 1 := rfl

@[simp] theorem enqueueWebhook_accounts (i : Nat) :
    (db.enqueueWebhook i).accounts = db.accounts := rfl

@[simp] theorem enqueueWebhook_transactions (i : Nat) :
    (db.enqueueWebhook i).transactions = db.transactions := rfl

@[simp] theorem enqueueWebhook_users (i : Nat) : (db.enqueueWebhook i).users = db.users := rfl

@[simp] theorem enqueueWebhook_deliveries (i : Nat) :
    (db.enqueueWebhook i).deliveries = db.deliveries := rfl

@[simp] theorem enqueueWebhook_journal (i : Nat) :
    (db.enqueueWebhook i).journal = db.journal := rfl

@[simp] theorem enqueueWebhook_nextId (i : Nat) : (db.enqueueWebhook i).nextId = db.nextId := rfl

@[simp] theorem setDelivery_accounts (k : Nat) (row : DeliveryRow) :
    (db.setDelivery k row).accounts = db.accounts := rfl

@[simp] theorem setDelivery_transactions (k : Nat) (row : DeliveryRow) :
    (db.setDelivery k row).transactions = db.transactions := rfl

@[simp] theorem setDelivery_users (k : Nat) (row : DeliveryRow) : (db.setDelivery k row).users = db.users :=
  rfl

@[simp] theorem setDelivery_deliveries (k : Nat) (row : DeliveryRow) :
    (db.setDelivery k row).deliveries = db.deliveries.set k row := rfl

@[simp] theorem setDelivery_webhookQueue (k : Nat) (row : DeliveryRow) :
    (db.setDelivery k row).webhookQueue = db.webhookQueue := rfl

@[simp] theorem setDelivery_journal (k : Nat) (row : DeliveryRow) :
    (db.setDelivery k row).journal = db.journal := rfl

@[simp] theorem setDelivery_nextId (k : Nat) (row : DeliveryRow) : (db.setDelivery k row).nextId = db.nextId :=
  rfl

end Db

end PaymentGateway.Ledger
