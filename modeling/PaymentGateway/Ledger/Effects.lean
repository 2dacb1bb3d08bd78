import PaymentGateway.Ledger.Services

namespace PaymentGateway.Ledger

section Trigger

variable (f : Faults) (tid : Nat) (t : Transaction) (a : Account) (db : Db)

-- `_trigger_webhook_if_configured` either returns early, or commits one delivery row and
-- possibly enqueues its job.
theorem trigger_cases :
    (triggerWebhookIfConfigured f tid t a db).1 = db ∨
    ∃ url, (triggerWebhookIfConfigured f tid t a db).1 =
        db.notify (newDelivery db.nextId tid url t a) ∨
      (triggerWebhookIfConfigured f tid t a db).1 =
        (db.notify (newDelivery db.nextId tid url t a)).enqueueWebhook db.nextId := by
  unfold triggerWebhookIfConfigured
  repeat' split
  all_goals first | exact .inl rfl | exact .inr ⟨_, .inl rfl⟩ | exact .inr ⟨_, .inr rfl⟩

@[simp] theorem trigger_accounts : (triggerWebhookIfConfigured f tid t a db).1.accounts = db.accounts := by
  rcases trigger_cases f tid t a db with h | ⟨url, h | h⟩ <;> simp [h]

@[simp] theorem trigger_transactions :
    (triggerWebhookIfConfigured f tid t a db).1.transactions = db.transactions := by
  rcases trigger_cases f tid t a db with h | ⟨url, h | h⟩ <;> simp [h]

@[simp] theorem trigger_users : (triggerWebhookIfConfigured f tid t a db).1.users = db.users := by
  rcases trigger_cases f tid t a db with h | ⟨url, h | h⟩ <;> simp [h]

theorem trigger_nextId : db.nextId ≤ (triggerWebhookIfConfigured f tid t a db).1.nextId := by
  rcases trigger_cases f tid t a db with h | ⟨url, h | h⟩ <;> simp [h]

-- The journal and the delivery table grow together, by one row for `tid` at most.
theorem trigger_log :
    ((triggerWebhookIfConfigured f tid t a db).1.journal = db.journal ∧
      (triggerWebhookIfConfigured f tid t a db).1.deliveries = db.deliveries) ∨
    ∃ url, (triggerWebhookIfConfigured f tid t a db).1.journal =
        db.journal ++ [.notified tid db.nextId] ∧
      (triggerWebhookIfConfigured f tid t a db).1.deliveries =
        db.deliveries ++ [.created (newDelivery db.nextId tid url t a)] := by
  rcases trigger_cases f tid t a db with h | ⟨url, h | h⟩
  · simp [h]
  all_goals exact .inr ⟨url, by simp [h, newDelivery], by simp [h]⟩

-- For a user with a webhook URL, a trigger whose commit passes commits the delivery row.
theorem trigger_hooked {u : User} {url : String} (hu : db.users a.userId = some u)
    (hurl : u.webhookUrl = some url) (hne : url.isEmpty = false) (hc : f.webhookCommit = none) :
    (triggerWebhookIfConfigured f tid t a db).1.journal = db.journal ++ [.notified tid db.nextId] := by
  unfold triggerWebhookIfConfigured
  simp only [hu, hurl, hne, hc, Bool.false_eq_true, if_false]
  cases f.enqueue <;> simp [newDelivery]

end Trigger

section Cases

variable (f : Faults) (tid : Nat) (db : Db)

-- The row a completion commits.
def Transaction.completedWith (t : Transaction) (bankTransactionId : String)
    (bankResponse : Option String) : Transaction :=
  { t with status := .Success, bankTransactionId := some bankTransactionId, bankResponse }

def Transaction.failedWith (t : Transaction) (errorCode errorMessage : String)
    (bankResponse : Option String) : Transaction :=
  { t with
    status := .Failed, errorCode := some errorCode, errorMessage := some errorMessage,
    bankResponse }

theorem complete_cases (service : TransactionType) (redis : Bool) (b : String)
    (r : Option String) :
    (complete service redis f tid b r db).1 = db ∨
    ∃ t acc moved, db.transactions tid = some t ∧ db.accounts t.accountId = some acc ∧
      moveBalance service acc t.amount = .ok moved ∧
      (complete service redis f tid b r db).1 =
        (triggerWebhookIfConfigured f tid (t.completedWith b r) moved
          (((db.setAccount t.accountId moved).setTransaction tid (t.completedWith b r)).record
            (.completed tid service))).1 := by
  unfold complete completeLocked
  repeat' split
  all_goals first | exact .inl rfl | exact .inr ⟨_, _, _, ‹_›, ‹_›, ‹_›, rfl⟩

theorem failTransaction_cases (c m : String) (r : Option String) :
    (failTransaction f tid c m r db).1 = db ∨
    ∃ t, db.transactions tid = some t ∧
      ((failTransaction f tid c m r db).1 =
          (db.setTransaction tid (t.failedWith c m r)).record (.failed tid) ∨
        ∃ acc, (failTransaction f tid c m r db).1 =
          (triggerWebhookIfConfigured f tid (t.failedWith c m r) acc
            ((db.setTransaction tid (t.failedWith c m r)).record (.failed tid))).1) := by
  unfold failTransaction
  repeat' split
  all_goals first
    | exact .inl rfl | exact .inr ⟨_, ‹_›, .inl rfl⟩ | exact .inr ⟨_, ‹_›, .inr ⟨_, rfl⟩⟩

theorem updateStatus_cases (s : TransactionStatus) :
    (updateStatus f tid s db).1 = db ∨
    ∃ t, db.transactions tid = some t ∧
      (updateStatus f tid s db).1 =
        (db.setTransaction tid { t with status := s }).record (.statusSet tid s) := by
  unfold updateStatus
  repeat' split
  all_goals first | exact .inl rfl | exact .inr ⟨_, ‹_›, rfl⟩

theorem markPendingReview_cases (reason : String) (r : Option String) :
    (markPendingReview f tid reason r db).1 = db ∨
    ∃ t, db.transactions tid = some t ∧
      (markPendingReview f tid reason r db).1 =
        (db.setTransaction tid { t with
          status := .PendingReview, errorMessage := some reason, bankResponse := r }).record
          (.reviewed tid) := by
  unfold markPendingReview
  repeat' split
  all_goals first | exact .inl rfl | exact .inr ⟨_, ‹_›, rfl⟩

-- The row `insertPending` adds.
def pendingRow (accountId : Nat) (transactionType : TransactionType) (amount : Int)
    (currency : String) (idempotencyKey celeryTaskId : Option String) : Transaction :=
  { accountId, transactionType, amount, currency, status := .Pending,
    bankTransactionId := none, bankResponse := none, errorCode := none,
    errorMessage := none, idempotencyKey, celeryTaskId }

theorem insertPending_cases (accountId : Nat) (k : TransactionType) (amount : Int)
    (currency : String) (key task : Option String) :
    (insertPending f accountId k amount currency key task db).1 = db ∨
    (insertPending f accountId k amount currency key task db).1 =
      (db.insert (pendingRow accountId k amount currency key task)).record
        (.inserted db.nextId) := by
  unfold insertPending
  repeat' split
  all_goals first | exact .inl rfl | exact .inr rfl

-- A creation that raised nothing inserted its row at the fresh id.
theorem insertPending_ok {accountId : Nat} {k : TransactionType} {amount : Int} {currency : String}
    {key task : Option String} (h : (insertPending f accountId k amount currency key task db).2 = none) :
    (insertPending f accountId k amount currency key task db).1 =
      (db.insert (pendingRow accountId k amount currency key task)).record (.inserted db.nextId) := by
  unfold insertPending at h ⊢
  by_cases ha : amount ≤ 0
  · simp only [ha, if_true] at h; cases h
  · simp only [ha, if_false] at h ⊢
    cases hc : f.commit <;> simp only [hc] at h ⊢
    · rfl
    · cases h

theorem createPendingDeposit_cases (accountId : Nat) (amount : Int) (currency : String)
    (key task : Option String) :
    (createPendingDeposit f accountId amount currency key task db).1 = db ∨
    (createPendingDeposit f accountId amount currency key task db).1 =
      (db.insert (pendingRow accountId .Deposit amount currency key task)).record
        (.inserted db.nextId) := by
  unfold createPendingDeposit
  split
  · exact .inl rfl
  · exact insertPending_cases ..

theorem createPendingDeposit_ok {accountId : Nat} {amount : Int} {currency : String}
    {key task : Option String} (h : (createPendingDeposit f accountId amount currency key task db).2 = none) :
    (createPendingDeposit f accountId amount currency key task db).1 =
      (db.insert (pendingRow accountId .Deposit amount currency key task)).record (.inserted db.nextId) := by
  unfold createPendingDeposit at h ⊢
  cases ha : db.accounts accountId <;> simp only [ha] at h ⊢
  · cases h
  · exact insertPending_ok _ _ h

theorem createPendingWithdrawal_ok {accountId : Nat} {amount : Int} {currency : String}
    {key task : Option String} (h : (createPendingWithdrawal f accountId amount currency key task db).2 = none) :
    (createPendingWithdrawal f accountId amount currency key task db).1 =
      (db.insert (pendingRow accountId .Withdrawal amount currency key task)).record (.inserted db.nextId) := by
  unfold createPendingWithdrawal at h ⊢
  cases ha : db.accounts accountId with
  | none => simp only [ha] at h; cases h
  | some account =>
    simp only [ha] at h ⊢
    by_cases hb : account.balance < amount
    · simp only [hb, if_true] at h; cases h
    · simp only [hb, if_false] at h ⊢
      exact insertPending_ok _ _ h

theorem createPendingWithdrawal_cases (accountId : Nat) (amount : Int) (currency : String)
    (key task : Option String) :
    (createPendingWithdrawal f accountId amount currency key task db).1 = db ∨
    (createPendingWithdrawal f accountId amount currency key task db).1 =
      (db.insert (pendingRow accountId .Withdrawal amount currency key task)).record
        (.inserted db.nextId) := by
  unfold createPendingWithdrawal
  split
  · exact .inl rfl
  · split
    · exact .inl rfl
    · exact insertPending_cases ..

end Cases

end PaymentGateway.Ledger
