import PaymentGateway.Ledger.Balance

namespace PaymentGateway.Api

open PaymentGateway.Ledger

-- An `HTTPException`: its status code and its detail.
structure HttpError where
  statusCode : Nat
  detail : String
  deriving DecidableEq, Repr

-- The columns of a `users` row that the read endpoints return or check.
structure UserRecord where
  email : String
  fullName : String
  isActive : Bool
  deriving DecidableEq, Repr

-- What the read endpoints see of the database: the `users` rows, the ids of the `accounts` rows
-- in the order a query returns them, and the ledger's rows.
structure ReadDb where
  users : Nat → Option UserRecord
  accountIds : List Nat
  db : Db

-- The value of a decimal numeral read up to one more digit.
def digitValue (n : Nat) (c : Char) : Nat := n * 10 + (c.toNat - '0'.toNat)

-- `UUID(user_id_str)`: a user id is a number here, where the code has a UUID, and the token's
-- `sub` claim writes it in decimal.
def parseUserId (sub : String) : Option Nat :=
  if sub.data ≠ [] ∧ sub.data.all Char.isDigit then some (sub.data.foldl digitValue 0) else none

-- `get_current_user`, given what `decode_access_token` made of the bearer token: nothing for an
-- invalid token, else its `sub` claim.
def getCurrentUser (r : ReadDb) (token : Option (Option String)) : Except HttpError (Nat × UserRecord) :=
  match token with
  | none => .error ⟨401, "Invalid authentication credentials"⟩
  | some none => .error ⟨401, "Invalid token payload"⟩
  | some (some sub) =>
    match parseUserId sub with
    | none => .error ⟨401, "Invalid user ID in token"⟩
    | some uid =>
      match r.users uid with
      | none => .error ⟨401, "User not found"⟩
      | some u => if u.isActive then .ok (uid, u) else .error ⟨403, "Inactive user"⟩

-- `AccountRepository.get_by_user_id`: the first account row of the user.
def accountOfUser (r : ReadDb) (uid : Nat) : Option (Nat × Account) :=
  (r.accountIds.filterMap fun a => (r.db.accounts a).map (a, ·)).find? (·.2.userId == uid)

-- `get_current_user_account`.
def getCurrentUserAccount (r : ReadDb) (uid : Nat) : Except HttpError (Nat × Account) :=
  match accountOfUser r uid with
  | none => .error ⟨404, "Account not found"⟩
  | some a => .ok a

-- The transaction rows of an account, newest first: row ids are given in insertion order, so
-- `order_by(created_at desc)` is the ids from the highest down.
def accountTransactions (r : ReadDb) (accountId : Nat) (kind : Option TransactionType) : List (Nat × Transaction) :=
  ((List.range r.db.nextId).reverse.filterMap fun i => (r.db.transactions i).map (i, ·)).filter fun p =>
    p.2.accountId == accountId && kind.all (p.2.transactionType == ·)

-- `TransactionRepository.get_by_account_id` with `offset(skip).limit(limit)`.
def getByAccountId (r : ReadDb) (accountId : Nat) (skip limit : Nat) (kind : Option TransactionType) :
    List (Nat × Transaction) :=
  ((accountTransactions r accountId kind).drop skip).take limit

-- `get_user_transaction`: the row, if it is on the caller's account.
def getUserTransaction (r : ReadDb) (transactionId accountId : Nat) (name : String) :
    Except HttpError Transaction :=
  match r.db.transactions transactionId with
  | none => .error ⟨404, name.capitalize ++ " not found"⟩
  | some t =>
    if t.accountId ≠ accountId then .error ⟨403, "Not authorized to access this " ++ name⟩
    else .ok t

-- `WebhookRepository.get_by_transaction_id`, newest first.
def deliveriesOf (r : ReadDb) (transactionId : Nat) : List DeliveryRow :=
  (r.db.deliveries.filter (·.transactionId == transactionId)).reverse

-- The owner check of the two delivery endpoints: the transaction's account is the user's.
def ownedBy (r : ReadDb) (uid : Nat) (t : Transaction) : Bool :=
  match r.db.accounts t.accountId with
  | some a => a.userId == uid
  | none => false

-- `get_webhook_deliveries`.
def getWebhookDeliveries (r : ReadDb) (uid : Nat) (transactionId : Option Nat) :
    Except HttpError (List DeliveryRow) :=
  match transactionId with
  | some tid =>
    match r.db.transactions tid with
    | none => .error ⟨404, "Transaction not found"⟩
    | some t =>
      if ownedBy r uid t then .ok (deliveriesOf r tid)
      else .error ⟨403, "Not authorized to view this transaction's webhooks"⟩
  | none =>
    match accountOfUser r uid with
    | none => .ok []
    | some (a, _) =>
      .ok (((List.range r.db.nextId).filter fun i =>
        ((r.db.transactions i).map (·.accountId == a)).getD false).flatMap (deliveriesOf r))

-- `get_webhook_delivery`.
def getWebhookDelivery (r : ReadDb) (uid : Nat) (deliveryId : Nat) : Except HttpError DeliveryRow :=
  match r.db.deliveries.find? (·.id == deliveryId) with
  | none => .error ⟨404, "Webhook delivery not found"⟩
  | some d =>
    match r.db.transactions d.transactionId with
    | none => .error ⟨404, "Transaction not found"⟩
    | some t =>
      if ownedBy r uid t then .ok d else .error ⟨403, "Not authorized to view this webhook delivery"⟩

-- The read endpoints.
inductive ReadRequest
  | me
  | balance
  | transactions (skip limit : Nat)
  | getDeposit (id : Nat)
  | getWithdrawal (id : Nat)
  | listDeposits (skip limit : Nat)
  | listWithdrawals (skip limit : Nat)
  | deliveries (transactionId : Option Nat)
  | delivery (id : Nat)
  deriving DecidableEq, Repr

inductive ReadReply
  | user (id : Nat) (record : UserRecord)
  | balance (accountId : Nat) (balance : Int)
  | transaction (t : Transaction)
  | transactions (rows : List (Nat × Transaction))
  | deliveries (rows : List DeliveryRow)
  | delivery (d : DeliveryRow)
  deriving DecidableEq, Repr

-- Each endpoint, once `get_current_user` has resolved to user `uid`; the deposit and withdrawal
-- routes also depend on `get_current_user_account`.
def answer (r : ReadDb) (uid : Nat) (u : UserRecord) : ReadRequest → Except HttpError ReadReply
  | .me => pure (.user uid u)
  | .balance =>
    match accountOfUser r uid with
    | none => .error ⟨404, "No account found for user " ++ toString uid⟩
    | some (a, acc) => pure (.balance a acc.balance)
  | .transactions skip limit =>
    match accountOfUser r uid with
    | none => pure (.transactions [])
    | some (a, _) => pure (.transactions (getByAccountId r a skip (min limit 100) none))
  | .getDeposit id => do
    let (a, _) ← getCurrentUserAccount r uid
    .transaction <$> getUserTransaction r id a "deposit"
  | .getWithdrawal id => do
    let (a, _) ← getCurrentUserAccount r uid
    .transaction <$> getUserTransaction r id a "withdrawal"
  | .listDeposits skip limit => do
    let (a, _) ← getCurrentUserAccount r uid
    pure (.transactions (getByAccountId r a skip (min limit 100) (some .Deposit)))
  | .listWithdrawals skip limit => do
    let (a, _) ← getCurrentUserAccount r uid
    pure (.transactions (getByAccountId r a skip (min limit 100) (some .Withdrawal)))
  | .deliveries tid => .deliveries <$> getWebhookDeliveries r uid tid
  | .delivery id => .delivery <$> getWebhookDelivery r uid id

-- FastAPI resolves `get_current_user` before the endpoint runs.
def serveRead (r : ReadDb) (token : Option (Option String)) (req : ReadRequest) : Except HttpError ReadReply := do
  let (uid, u) ← getCurrentUser r token
  answer r uid u req

-- A transaction of the user: on an account whose `user_id` is theirs.
def Owns (r : ReadDb) (uid : Nat) (t : Transaction) : Prop :=
  ∃ acc, r.db.accounts t.accountId = some acc ∧ acc.userId = uid

-- What an answer to user `uid` may hold: their own record, their account's balance, and rows of
-- transactions and webhook deliveries of their account.
def ReadReply.Confined (r : ReadDb) (uid : Nat) : ReadReply → Prop
  | .user id _ => id = uid
  | .balance a bal => ∃ acc, r.db.accounts a = some acc ∧ acc.userId = uid ∧ acc.balance = bal
  | .transaction t => (∃ id, r.db.transactions id = some t) ∧ Owns r uid t
  | .transactions rows => ∀ p ∈ rows, r.db.transactions p.1 = some p.2 ∧ Owns r uid p.2
  | .deliveries ds => ∀ d ∈ ds, d ∈ r.db.deliveries ∧ ∃ t, r.db.transactions d.transactionId = some t ∧ Owns r uid t
  | .delivery d => d ∈ r.db.deliveries ∧ ∃ t, r.db.transactions d.transactionId = some t ∧ Owns r uid t

section Lookups

variable {r : ReadDb} {uid a : Nat}

theorem bind_eq_ok {α β : Type} {e : Except HttpError α} {f : α → Except HttpError β} {b : β}
    (h : e >>= f = .ok b) : ∃ x, e = .ok x ∧ f x = .ok b := by
  cases e with
  | error => cases h
  | ok x => exact ⟨x, rfl, h⟩

theorem map_eq_ok {α β : Type} {e : Except HttpError α} {f : α → β} {b : β} (h : f <$> e = .ok b) :
    ∃ x, e = .ok x ∧ f x = b := by
  cases e with
  | error => cases h
  | ok x => cases h; exact ⟨x, rfl, rfl⟩

theorem map_transaction_eq_ok {e : Except HttpError Transaction} {t : Transaction} :
    ReadReply.transaction <$> e = .ok (.transaction t) ↔ e = .ok t := by
  cases e <;> simp [Functor.map, Except.map]

theorem getCurrentUser_ok {token : Option (Option String)} {u : UserRecord}
    (h : getCurrentUser r token = .ok (uid, u)) : r.users uid = some u ∧ u.isActive := by
  rcases token with _ | _ | sub
  · cases h
  · cases h
  · simp only [getCurrentUser] at h
    split at h
    · cases h
    · split at h
      · cases h
      · split at h
        · cases h; exact ⟨‹_›, ‹_›⟩
        · cases h

theorem accountOfUser_some {p : Nat × Account} (h : accountOfUser r uid = some p) :
    r.db.accounts p.1 = some p.2 ∧ p.2.userId = uid := by
  have hmem := List.mem_of_find?_eq_some h
  have hid := List.find?_some h
  simp only [List.mem_filterMap, Option.map_eq_some'] at hmem
  obtain ⟨_, -, _, hacc, rfl⟩ := hmem
  exact ⟨hacc, by simpa using hid⟩

theorem getCurrentUserAccount_ok {p : Nat × Account} (h : getCurrentUserAccount r uid = .ok p) :
    r.db.accounts p.1 = some p.2 ∧ p.2.userId = uid := by
  unfold getCurrentUserAccount at h
  split at h
  · cases h
  · cases h; exact accountOfUser_some ‹_›

theorem getByAccountId_mem {skip limit : Nat} {kind : Option TransactionType} {p : Nat × Transaction}
    (h : p ∈ getByAccountId r a skip limit kind) : r.db.transactions p.1 = some p.2 ∧ p.2.accountId = a := by
  have hp := List.mem_of_mem_drop (List.mem_of_mem_take h)
  simp only [accountTransactions, List.mem_filter, List.mem_filterMap, Option.map_eq_some',
    Bool.and_eq_true, beq_iff_eq] at hp
  obtain ⟨⟨i, -, t, ht, rfl⟩, ha, -⟩ := hp
  exact ⟨ht, ha⟩

theorem getByAccountId_confined {acc : Account} (hacc : r.db.accounts a = some acc) (hu : acc.userId = uid)
    (skip limit : Nat) (kind : Option TransactionType) :
    (ReadReply.transactions (getByAccountId r a skip limit kind)).Confined r uid := fun _ hp =>
  have ⟨ht, hpa⟩ := getByAccountId_mem hp
  ⟨ht, acc, hpa ▸ hacc, hu⟩

theorem getUserTransaction_ok {id : Nat} {name : String} {t : Transaction} :
    getUserTransaction r id a name = .ok t ↔ r.db.transactions id = some t ∧ t.accountId = a := by
  cases ht : r.db.transactions id with
  | none => simp [getUserTransaction, ht]
  | some t' =>
    simp only [getUserTransaction, ht, Option.some.injEq]
    by_cases hta : t'.accountId = a
    · simp only [hta, ne_eq, not_true_eq_false, if_false, Except.ok.injEq]
      exact ⟨fun h => ⟨h, h ▸ hta⟩, And.left⟩
    · simp only [hta, ne_eq, not_false_eq_true, if_true]
      exact ⟨fun h => (by cases h), fun h => absurd (h.1 ▸ h.2 : t'.accountId = a) hta⟩

theorem ownedBy_owns {t : Transaction} (h : ownedBy r uid t = true) : Owns r uid t := by
  unfold ownedBy at h
  split at h
  · exact ⟨_, ‹_›, by simpa using h⟩
  · cases h

theorem deliveriesOf_mem {tid : Nat} {d : DeliveryRow} (h : d ∈ deliveriesOf r tid) :
    d ∈ r.db.deliveries ∧ d.transactionId = tid := by
  simpa [deliveriesOf] using h

theorem getWebhookDeliveries_ok {tid : Option Nat} {ds : List DeliveryRow}
    (h : getWebhookDeliveries r uid tid = .ok ds) :
    ∀ d ∈ ds, d ∈ r.db.deliveries ∧ ∃ t, r.db.transactions d.transactionId = some t ∧ Owns r uid t := by
  intro d hd
  unfold getWebhookDeliveries at h
  split at h
  · -- one transaction's deliveries, after the owner check
    split at h
    · cases h
    · rename_i t ht
      split at h
      · cases h
        obtain ⟨hdb, rfl⟩ := deliveriesOf_mem hd
        exact ⟨hdb, t, ht, ownedBy_owns ‹_›⟩
      · cases h
  · -- the deliveries of every transaction on the user's account
    split at h
    · cases h; cases hd
    · rename_i acc hacc
      cases h
      obtain ⟨hown, huid⟩ := accountOfUser_some hacc
      simp only [List.mem_flatMap, List.mem_filter, List.mem_range] at hd
      obtain ⟨i, ⟨-, hi⟩, hd⟩ := hd
      obtain ⟨hdb, rfl⟩ := deliveriesOf_mem hd
      cases ht : r.db.transactions d.transactionId with
      | none => simp [ht] at hi
      | some t =>
        simp only [ht, Option.map_some', Option.getD_some, beq_iff_eq] at hi
        exact ⟨hdb, t, rfl, acc, hi ▸ hown, huid⟩

theorem getWebhookDelivery_ok {id : Nat} {d : DeliveryRow} (h : getWebhookDelivery r uid id = .ok d) :
    d ∈ r.db.deliveries ∧ ∃ t, r.db.transactions d.transactionId = some t ∧ Owns r uid t := by
  unfold getWebhookDelivery at h
  split at h
  · cases h
  · rename_i d' hd'
    split at h
    · cases h
    · rename_i t ht
      split at h
      · cases h; exact ⟨List.mem_of_find?_eq_some hd', t, ht, ownedBy_owns ‹_›⟩
      · cases h

theorem answer_confined {u : UserRecord} {req : ReadRequest} {reply : ReadReply}
    (h : answer r uid u req = .ok reply) : reply.Confined r uid := by
  cases req with
  | me => cases h; rfl
  | balance =>
    cases ha : accountOfUser r uid with
    | none => simp only [answer, ha] at h; cases h
    | some p =>
      simp only [answer, ha] at h; cases h
      exact ⟨_, (accountOfUser_some ha).1, (accountOfUser_some ha).2, rfl⟩
  | transactions skip limit =>
    cases ha : accountOfUser r uid with
    | none => simp only [answer, ha] at h; cases h; exact fun _ hp => nomatch hp
    | some p =>
      simp only [answer, ha] at h; cases h
      exact getByAccountId_confined (accountOfUser_some ha).1 (accountOfUser_some ha).2 _ _ _
  | getDeposit id | getWithdrawal id =>
    obtain ⟨p, ha, h⟩ := bind_eq_ok h
    obtain ⟨t, ht, rfl⟩ := map_eq_ok h
    obtain ⟨hacc, hu⟩ := getCurrentUserAccount_ok ha
    obtain ⟨ht, hta⟩ := getUserTransaction_ok.mp ht
    exact ⟨⟨id, ht⟩, p.2, hta ▸ hacc, hu⟩
  | listDeposits skip limit | listWithdrawals skip limit =>
    obtain ⟨p, ha, h⟩ := bind_eq_ok h
    cases h
    exact getByAccountId_confined (getCurrentUserAccount_ok ha).1 (getCurrentUserAccount_ok ha).2 _ _ _
  | deliveries tid =>
    obtain ⟨ds, hd, rfl⟩ := map_eq_ok h
    exact getWebhookDeliveries_ok hd
  | delivery id =>
    obtain ⟨d, hd, rfl⟩ := map_eq_ok h
    exact getWebhookDelivery_ok hd

-- `get_deposit` and `get_withdrawal` answer exactly the transactions on the caller's account,
-- whatever their type: neither route checks `transaction_type`.
theorem answer_transaction_iff {u : UserRecord} {acc : Account} (ha : accountOfUser r uid = some (a, acc))
    (id : Nat) (t : Transaction) :
    (answer r uid u (.getDeposit id) = .ok (.transaction t) ↔
      r.db.transactions id = some t ∧ t.accountId = a) ∧
    (answer r uid u (.getWithdrawal id) = .ok (.transaction t) ↔
      r.db.transactions id = some t ∧ t.accountId = a) := by
  have hacc : getCurrentUserAccount r uid = .ok (a, acc) := by simp [getCurrentUserAccount, ha]
  simp only [answer, hacc, bind, Except.bind, map_transaction_eq_ok, getUserTransaction_ok, and_self]

end Lookups

-- Every answer a read endpoint gives holds only the data of the user the token names, an
-- active one: their record, their account's balance, and transactions and webhook deliveries
-- of their account. Whatever the request and whatever the other users' rows.
theorem serveRead_confined (r : ReadDb) (token : Option (Option String)) (req : ReadRequest) {reply : ReadReply}
    (h : serveRead r token req = .ok reply) :
    ∃ uid u, getCurrentUser r token = .ok (uid, u) ∧ u.isActive ∧ reply.Confined r uid := by
  obtain ⟨⟨uid, u⟩, hc, h⟩ := bind_eq_ok h
  exact ⟨uid, u, hc, (getCurrentUser_ok hc).2, answer_confined h⟩

-- One user with one account holding a completed withdrawal of 25.00.
def withdrawalRow : Transaction :=
  ⟨0, .Withdrawal, 2500, "USD", .Success, none, none, none, none, none, none⟩

def oneWithdrawalDb : ReadDb :=
  { users := fun u => if u = 0 then some ⟨"user@example.com", "Test User", true⟩ else none
    accountIds := [0]
    db := { fundedDb with transactions := fun i => if i = 0 then some withdrawalRow else none, nextId := 1 } }

theorem own_transactions_listed :
    serveRead oneWithdrawalDb (some (some "0")) (.transactions 0 100) = .ok (.transactions [(0, withdrawalRow)]) ∧
    ∃ uid u, getCurrentUser oneWithdrawalDb (some (some "0")) = .ok (uid, u) ∧ u.isActive ∧
      (ReadReply.transactions [(0, withdrawalRow)]).Confined oneWithdrawalDb uid :=
  have h : serveRead oneWithdrawalDb (some (some "0")) (.transactions 0 100) =
      .ok (.transactions [(0, withdrawalRow)]) := rfl
  ⟨h, serveRead_confined _ _ _ h⟩

-- The deposits route answers the withdrawal's id (`answer_transaction_iff`).
example : serveRead oneWithdrawalDb (some (some "0")) (.getDeposit 0) = .ok (.transaction withdrawalRow) := rfl

end PaymentGateway.Api
