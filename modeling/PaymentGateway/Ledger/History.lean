import PaymentGateway.Ledger.Balance

namespace PaymentGateway.Ledger

-- `update_status(id, PENDING)`, the one call that sets a row back to PENDING.
def Call.setsPending : Call → Bool
  | .updateStatus _ .Pending => true
  | _ => false

-- The row a call completes, with the service completing it.
def Call.completion : Call → Option (Nat × TransactionType)
  | .completeDeposit _ tid _ _ => some (tid, .Deposit)
  | .completeWithdrawal _ tid _ _ => some (tid, .Withdrawal)
  | _ => none

def Commit.notifies (tid : Nat) : Commit → Bool
  | .notified i _ => i == tid
  | _ => false

-- The commits of a completion or a failure of `tid`, after which the webhook is triggered.
def Commit.settles (tid : Nat) : Commit → Bool
  | .completed i _ | .failed i => i == tid
  | _ => false

@[simp] theorem Commit.notifies_notified (i tid d : Nat) :
    (Commit.notified tid d).notifies i = (tid == i) := rfl

@[simp] theorem Commit.settles_notified (i tid d : Nat) :
    (Commit.notified tid d).settles i = false := rfl

namespace Db

def deliveriesFor (db : Db) (tid : Nat) : Nat := db.deliveries.countP (·.transactionId == tid)

-- Every row stays, and a status that changes changes to one other than PENDING.
def StatusStep (db db' : Db) : Prop :=
  ∀ tid t, db.transactions tid = some t →
    ∃ t', db'.transactions tid = some t' ∧ (t'.status = t.status ∨ t'.status ≠ .Pending)

-- Every committed completion is one of its row's own type.
def CompletionsTyped (db : Db) : Prop :=
  ∀ tid k, Commit.completed tid k ∈ db.journal →
    ∃ t, db.transactions tid = some t ∧ t.transactionType = k

-- The journal grows by `new`; each delivery row added is a `notified` commit of `new`, and
-- no transaction gets more of them than `new` completes or fails it.
def NotifyStep (db db' : Db) : Prop :=
  ∃ new, db'.journal = db.journal ++ new ∧ ∀ tid,
    db'.deliveriesFor tid = db.deliveriesFor tid + new.countP (Commit.notifies tid) ∧
      new.countP (Commit.notifies tid) ≤ new.countP (Commit.settles tid)

variable {db db' db'' : Db}

theorem StatusStep.refl (db : Db) : StatusStep db db := fun _ t h => ⟨t, h, .inl rfl⟩

theorem StatusStep.trans (h₁ : StatusStep db db') (h₂ : StatusStep db' db'') :
    StatusStep db db'' := by
  intro tid t ht
  obtain ⟨t₁, h₁, s₁⟩ := h₁ tid t ht
  obtain ⟨t₂, h₂, s₂ | s₂⟩ := h₂ tid t₁ h₁
  · exact ⟨t₂, h₂, s₂ ▸ s₁⟩
  · exact ⟨t₂, h₂, .inr s₂⟩

theorem StatusStep.of_rows (h : ∀ i u, db.transactions i = some u → db'.transactions i = some u) :
    StatusStep db db' :=
  fun i u hu => ⟨u, h i u hu, .inl rfl⟩

theorem StatusStep.of_update (tid : Nat) (t' : Transaction)
    (h : db'.transactions = Function.update db.transactions tid (some t'))
    (hs : ∀ t, db.transactions tid = some t → t'.status = t.status ∨ t'.status ≠ .Pending) :
    StatusStep db db' := by
  intro i u hu
  by_cases hi : i = tid
  · subst hi; exact ⟨t', by simp [h], hs u hu⟩
  · exact ⟨u, by simp [h, hi, hu], .inl rfl⟩

theorem NotifyStep.refl (db : Db) : NotifyStep db db := ⟨[], by simp, by simp⟩

theorem NotifyStep.trans (h₁ : NotifyStep db db') (h₂ : NotifyStep db' db'') :
    NotifyStep db db'' := by
  obtain ⟨n₁, j₁, c₁⟩ := h₁
  obtain ⟨n₂, j₂, c₂⟩ := h₂
  refine ⟨n₁ ++ n₂, by simp [j₁, j₂], fun tid => ?_⟩
  have := c₁ tid
  have := c₂ tid
  simp only [List.countP_append]
  omega

-- A commit that is no notification and adds no delivery row.
theorem NotifyStep.of_frame (e : Commit) (hj : db'.journal = db.journal ++ [e])
    (hd : db'.deliveries = db.deliveries) (he : ∀ tid, e.notifies tid = false) :
    NotifyStep db db' :=
  ⟨[e], hj, fun tid => by simp [deliveriesFor, hd, he]⟩

-- A webhook task rewrites one delivery row in place, under its transaction.
theorem deliveriesFor_setDelivery {k : Nat} {d d' : DeliveryRow} (hd : db.deliveries[k]? = some d)
    (ht : d'.transactionId = d.transactionId) (tid : Nat) :
    (db.setDelivery k d').deliveriesFor tid = db.deliveriesFor tid := by
  obtain ⟨hk, rfl⟩ := List.getElem?_eq_some_iff.mp hd
  have := List.boole_getElem_le_countP (fun r => r.transactionId == tid) db.deliveries k hk
  simp only [deliveriesFor, setDelivery_deliveries, List.countP_set _ _ _ _ hk, ht] at this ⊢
  omega

theorem NotifyStep.setDelivery {k : Nat} {d d' : DeliveryRow} (hd : db.deliveries[k]? = some d)
    (ht : d'.transactionId = d.transactionId) : NotifyStep db (db.setDelivery k d') :=
  ⟨[], by simp, fun tid => by simp [deliveriesFor_setDelivery hd ht]⟩

-- The commit of a completion or a failure of `tid`, then its webhook trigger.
theorem NotifyStep.settle (f : Faults) {tid : Nat} (t : Transaction) (a : Account)
    (hd : db'.deliveries = db.deliveries) (hj : db'.journal = db.journal) {e : Commit}
    (he : (∃ k, e = .completed tid k) ∨ e = .failed tid) :
    NotifyStep db (triggerWebhookIfConfigured f tid t a (db'.record e)).1 := by
  have hs : ∀ i, e.settles i = (tid == i) ∧ e.notifies i = false := by
    rcases he with ⟨k, rfl⟩ | rfl <;> simp [Commit.settles, Commit.notifies, eq_comm]
  rcases trigger_log f tid t a (db'.record e) with ⟨hj', hd'⟩ | ⟨url, hj', hd'⟩
  · exact .of_frame e (by simp [hj', hj]) (by simp [hd', hd]) fun i => (hs i).2
  · refine ⟨[e, .notified tid (db'.record e).nextId], by simp [hj', hj], fun i => ?_⟩
    simp only [deliveriesFor, hd', record_deliveries, hd, List.countP_append, List.countP_cons,
      List.countP_nil, (hs i).1, (hs i).2, Commit.notifies_notified, Commit.settles_notified,
      newDelivery]
    by_cases hi : tid = i <;> simp [hi]

-- The commit of a task id keeps every completion typed.
theorem CompletionsTyped.taskRecorded (h : db.CompletionsTyped) {tid : Nat}
    {t : Transaction} (ht : db.transactions tid = some t) (task : String) :
    ((db.setTransaction tid { t with celeryTaskId := some task }).record
      (.taskRecorded tid)).CompletionsTyped := by
  intro i k hm
  have hx : Extends db (db.setTransaction tid { t with celeryTaskId := some task }) :=
    .setTransaction ht ⟨rfl, rfl, rfl⟩
  simp only [record_journal, List.mem_append, List.mem_singleton, reduceCtorEq, or_false] at hm
  obtain ⟨u, hu, hk⟩ := h i k hm
  obtain ⟨u', hu', -, hk', -⟩ := hx i u hu
  exact ⟨u', hu', hk'.trans hk⟩

end Db

open Db

section Calls

variable (f : Faults) (db : Db)

section Services

variable (service : TransactionType) (redis : Bool) (i : Nat) (b : String) (m : Option String)

theorem complete_statusStep : StatusStep db (complete service redis f i b m db).1 := by
  rcases complete_cases f i db service redis b m with h | ⟨t, acc, moved, -, -, -, h⟩ <;> rw [h]
  · exact .refl db
  · exact .of_update i (t.completedWith b m) (by simp)
      fun _ _ => .inr (by simp [Transaction.completedWith])

theorem failTransaction_statusStep (c e : String) :
    StatusStep db (failTransaction f i c e m db).1 := by
  rcases failTransaction_cases f i db c e m with h | ⟨t, -, h | ⟨acc, h⟩⟩ <;> rw [h]
  · exact .refl db
  · exact .of_update i (t.failedWith c e m) (by simp)
      fun _ _ => .inr (by simp [Transaction.failedWith])
  · exact .of_update i (t.failedWith c e m) (by simp)
      fun _ _ => .inr (by simp [Transaction.failedWith])

theorem complete_completed {tid : Nat} {k : TransactionType}
    (hm : Commit.completed tid k ∈ (complete service redis f i b m db).1.journal) :
    Commit.completed tid k ∈ db.journal ∨ (tid = i ∧ k = service) := by
  rcases complete_cases f i db service redis b m with h | ⟨t, acc, moved, -, -, -, h⟩ <;>
    rw [h] at hm
  · exact .inl hm
  · rcases trigger_log f i (t.completedWith b m) moved (((db.setAccount t.accountId moved).setTransaction
      i (t.completedWith b m)).record (.completed i service)) with ⟨hj, -⟩ | ⟨url, hj, -⟩ <;>
      simpa [hj] using hm

theorem failTransaction_completed {tid : Nat} {k : TransactionType} (c e : String)
    (hm : Commit.completed tid k ∈ (failTransaction f i c e m db).1.journal) :
    Commit.completed tid k ∈ db.journal := by
  rcases failTransaction_cases f i db c e m with h | ⟨t, -, h | ⟨acc, h⟩⟩ <;> rw [h] at hm
  · exact hm
  · simpa using hm
  · rcases trigger_log f i (t.failedWith c e m) acc ((db.setTransaction i (t.failedWith c e m)).record
      (.failed i)) with ⟨hj, -⟩ | ⟨url, hj, -⟩ <;> simpa [hj] using hm

theorem complete_notifyStep : NotifyStep db (complete service redis f i b m db).1 := by
  rcases complete_cases f i db service redis b m with h | ⟨t, acc, moved, -, -, -, h⟩ <;> rw [h]
  exacts [.refl db, .settle f _ _ (by simp) (by simp) (.inl ⟨_, rfl⟩)]

theorem failTransaction_notifyStep (c e : String) :
    NotifyStep db (failTransaction f i c e m db).1 := by
  rcases failTransaction_cases f i db c e m with h | ⟨t, -, h | ⟨acc, h⟩⟩ <;> rw [h]
  · exact .refl db
  · exact .of_frame (.failed i) (by simp) (by simp) fun _ => rfl
  · exact .settle f _ _ (by simp) (by simp) (.inr rfl)

end Services

theorem perform_statusStep (hf : db.Fresh) :
    ∀ c, c.setsPending = false → StatusStep db (perform f c db).1
  | .createPendingDeposit a m c k t, _ => by
    rcases createPendingDeposit_cases f db a m c k t with h | h <;> simp only [perform, h]
    exacts [.refl db, .of_rows fun _ _ hu => hf.insert_apply _ hu]
  | .createPendingWithdrawal a m c k t, _ => by
    rcases createPendingWithdrawal_cases f db a m c k t with h | h <;> simp only [perform, h]
    exacts [.refl db, .of_rows fun _ _ hu => hf.insert_apply _ hu]
  | .updateStatus i s, hp => by
    rcases updateStatus_cases f i db s with h | ⟨t, ht, h⟩ <;> simp only [perform, h]
    · exact .refl db
    · refine .of_update i { t with status := s } (by simp) fun _ _ => .inr ?_
      cases s <;> simp_all [Call.setsPending]
  | .markPendingReview i r b, _ => by
    rcases markPendingReview_cases f i db r b with h | ⟨t, ht, h⟩ <;> simp only [perform, h]
    exacts [.refl db, .of_update i
      { t with status := .PendingReview, errorMessage := some r, bankResponse := b } (by simp)
      fun _ _ => .inr (by simp)]
  | .completeDeposit r i b m, _ => complete_statusStep f db .Deposit r i b m
  | .completeWithdrawal r i b m, _ => complete_statusStep f db .Withdrawal r i b m
  | .failDeposit i c e b, _ => failTransaction_statusStep f db i b c e
  | .failWithdrawal i c e b, _ => failTransaction_statusStep f db i b c e

-- A completion commit in the journal after a call is an old one or the call's own.
theorem perform_completed {tid : Nat} {k : TransactionType} :
    ∀ c, Commit.completed tid k ∈ (perform f c db).1.journal →
      Commit.completed tid k ∈ db.journal ∨ c.completion = some (tid, k)
  | .createPendingDeposit a m c key t, hm => by
    rcases createPendingDeposit_cases f db a m c key t with h | h <;> simp_all [perform]
  | .createPendingWithdrawal a m c key t, hm => by
    rcases createPendingWithdrawal_cases f db a m c key t with h | h <;> simp_all [perform]
  | .updateStatus i s, hm => by
    rcases updateStatus_cases f i db s with h | ⟨t, -, h⟩ <;> simp_all [perform]
  | .markPendingReview i r b, hm => by
    rcases markPendingReview_cases f i db r b with h | ⟨t, -, h⟩ <;> simp_all [perform]
  | .completeDeposit r i b m, hm =>
    (complete_completed f db .Deposit r i b m hm).imp id fun ⟨h₁, h₂⟩ => by simp [Call.completion, h₁, h₂]
  | .completeWithdrawal r i b m, hm =>
    (complete_completed f db .Withdrawal r i b m hm).imp id fun ⟨h₁, h₂⟩ => by
      simp [Call.completion, h₁, h₂]
  | .failDeposit i c e b, hm => .inl (failTransaction_completed f db i b c e hm)
  | .failWithdrawal i c e b, hm => .inl (failTransaction_completed f db i b c e hm)

-- A call whose target row has the type of its service keeps every completion typed.
theorem perform_completionsTyped (hf : db.Fresh) (hT : db.CompletionsTyped) (c : Call)
    (hc : ∀ tid k, c.completion = some (tid, k) →
      ∃ t, db.transactions tid = some t ∧ t.transactionType = k) :
    (perform f c db).1.CompletionsTyped := by
  intro tid k hm
  have hx := (perform_preserves f db c).rows hf
  obtain ⟨t, ht, hk⟩ := (perform_completed f db c hm).elim (hT tid k) (hc tid k)
  obtain ⟨t', ht', -, hk', -⟩ := hx tid t ht
  exact ⟨t', ht', hk'.trans hk⟩

theorem perform_notifyStep : ∀ c, NotifyStep db (perform f c db).1
  | .createPendingDeposit a m c k t => by
    rcases createPendingDeposit_cases f db a m c k t with h | h <;> simp only [perform, h]
    exacts [.refl db, .of_frame (.inserted db.nextId) (by simp) (by simp) fun _ => rfl]
  | .createPendingWithdrawal a m c k t => by
    rcases createPendingWithdrawal_cases f db a m c k t with h | h <;> simp only [perform, h]
    exacts [.refl db, .of_frame (.inserted db.nextId) (by simp) (by simp) fun _ => rfl]
  | .updateStatus i s => by
    rcases updateStatus_cases f i db s with h | ⟨t, -, h⟩ <;> simp only [perform, h]
    exacts [.refl db, .of_frame (.statusSet i s) (by simp) (by simp) fun _ => rfl]
  | .markPendingReview i r b => by
    rcases markPendingReview_cases f i db r b with h | ⟨t, -, h⟩ <;> simp only [perform, h]
    exacts [.refl db, .of_frame (.reviewed i) (by simp) (by simp) fun _ => rfl]
  | .completeDeposit r i b m => complete_notifyStep f db .Deposit r i b m
  | .completeWithdrawal r i b m => complete_notifyStep f db .Withdrawal r i b m
  | .failDeposit i c e b => failTransaction_notifyStep f db i b c e
  | .failWithdrawal i c e b => failTransaction_notifyStep f db i b c e

end Calls

namespace Db

-- The user of each account: whom `_trigger_webhook_if_configured` and the owner checks of the
-- read endpoints look up.
def owners (db : Db) (a : Nat) : Option Nat := (db.accounts a).map Account.userId

theorem owners_congr {db db' : Db} (h : db'.accounts = db.accounts) : db'.owners = db.owners := by
  unfold owners; rw [h]

-- The transaction's account belongs to a user with a webhook URL, so that
-- `_trigger_webhook_if_configured` creates a delivery after each of its settlements.
def Hooked (db : Db) (tid : Nat) : Prop :=
  ∃ t a u url, db.transactions tid = some t ∧ db.accounts t.accountId = some a ∧
    db.users a.userId = some u ∧ u.webhookUrl = some url ∧ url.isEmpty = false

-- The journal grows by `new`; every settlement in `new` is of a row there is after it, and every
-- settlement of a hooked transaction is followed by its notification, but for at most `k` whose
-- trigger commit raised.
def SettleStep (k : Nat) (db db' : Db) : Prop :=
  ∃ new, db'.journal = db.journal ++ new ∧ ∀ tid,
    (0 < new.countP (Commit.settles tid) → (db'.transactions tid).isSome) ∧
    (db'.Hooked tid → new.countP (Commit.settles tid) ≤ new.countP (Commit.notifies tid) + k)

-- The journal grows by commits that settle nothing.
def NoSettle (db db' : Db) : Prop :=
  ∃ new, db'.journal = db.journal ++ new ∧ ∀ tid, new.countP (Commit.settles tid) = 0

variable {db db' db'' : Db}

theorem NoSettle.refl (db : Db) : NoSettle db db := ⟨[], (by simp), fun _ => rfl⟩

theorem NoSettle.trans (h₁ : NoSettle db db') (h₂ : NoSettle db' db'') : NoSettle db db'' := by
  obtain ⟨n₁, j₁, c₁⟩ := h₁
  obtain ⟨n₂, j₂, c₂⟩ := h₂
  exact ⟨n₁ ++ n₂, by simp [j₁, j₂], fun tid => by simp [c₁ tid, c₂ tid]⟩

theorem NoSettle.of_frame (e : Commit) (hj : db'.journal = db.journal ++ [e])
    (he : ∀ tid, e.settles tid = false) : NoSettle db db' :=
  ⟨[e], hj, fun tid => by simp [he]⟩

theorem NoSettle.setDelivery (db : Db) (k : Nat) (d : DeliveryRow) : NoSettle db (db.setDelivery k d) :=
  ⟨[], by simp, fun _ => rfl⟩

theorem NoSettle.settleStep (h : NoSettle db db') (k : Nat) : SettleStep k db db' := by
  obtain ⟨new, hj, hc⟩ := h
  exact ⟨new, hj, fun tid => ⟨fun h => (by rw [hc tid] at h; cases h), fun _ => by rw [hc tid]; omega⟩⟩

-- Steps compose where the rows of the middle state stay, and so does what they look up.
theorem SettleStep.trans {k₁ k₂ : Nat} (h₁ : SettleStep k₁ db db') (h₂ : SettleStep k₂ db' db'')
    (hrow : ∀ tid, (db'.transactions tid).isSome → (db''.transactions tid).isSome)
    (hhook : ∀ tid, (db'.transactions tid).isSome → db''.Hooked tid → db'.Hooked tid) :
    SettleStep (k₁ + k₂) db db'' := by
  obtain ⟨n₁, j₁, c₁⟩ := h₁
  obtain ⟨n₂, j₂, c₂⟩ := h₂
  refine ⟨n₁ ++ n₂, by simp [j₁, j₂], fun tid => ⟨fun h => ?_, fun hh => ?_⟩⟩
  · rw [List.countP_append] at h
    by_cases h0 : 0 < n₁.countP (Commit.settles tid)
    · exact hrow tid ((c₁ tid).1 h0)
    · exact (c₂ tid).1 (by omega)
  · have b₂ := (c₂ tid).2 hh
    -- a settlement before the middle state is of a row there, which was hooked then
    have b₁ : n₁.countP (Commit.settles tid) ≤ n₁.countP (Commit.notifies tid) + k₁ := by
      by_cases h0 : 0 < n₁.countP (Commit.settles tid)
      · exact (c₁ tid).2 (hhook tid ((c₁ tid).1 h0) hh)
      · omega
    simp only [List.countP_append]
    omega

end Db

open Db

-- The notifications a call can fail to commit: one, where the trigger's commit raises.
def Faults.missable (f : Faults) : Nat := if f.webhookCommit.isSome then 1 else 0

-- A settlement commit of `tid` and its webhook trigger, on the account `a` of its row `t`: a
-- hooked row gets its notification unless the trigger's commit raises.
theorem Db.SettleStep.settle (f : Faults) {db db' : Db} {tid : Nat} {t : Transaction} {a : Account}
    {e : Commit} (he : (∃ k, e = .completed tid k) ∨ e = .failed tid) (hj : db'.journal = db.journal)
    (ht : db'.transactions tid = some t) (ha : db'.accounts t.accountId = some a) :
    SettleStep f.missable db (triggerWebhookIfConfigured f tid t a (db'.record e)).1 := by
  have hs : ∀ i, e.settles i = (tid == i) ∧ e.notifies i = false := by
    rcases he with ⟨k, rfl⟩ | rfl <;> simp [Commit.settles, Commit.notifies, eq_comm]
  -- the trigger commits a notification of `tid`, or nothing
  obtain ⟨new, hnew, hjn⟩ : ∃ new, (new = [] ∨ new = [.notified tid (db'.record e).nextId]) ∧
      (triggerWebhookIfConfigured f tid t a (db'.record e)).1.journal = db.journal ++ e :: new := by
    rcases trigger_log f tid t a (db'.record e) with ⟨hj', -⟩ | ⟨url, hj', -⟩
    · exact ⟨[], .inl rfl, by simp [hj', hj]⟩
    · exact ⟨_, .inr rfl, by simp [hj', hj]⟩
  have hset : ∀ i, new.countP (Commit.settles i) = 0 := fun i => by rcases hnew with rfl | rfl <;> rfl
  refine ⟨e :: new, hjn, fun i => ⟨fun h => ?_, fun hh => ?_⟩⟩
  · have : tid = i := by
      by_contra hne
      simp [List.countP_cons, hset, (hs i).1, hne] at h
    subst this; simp [ht]
  · by_cases hi : tid = i
    · subst hi
      cases hw : f.webhookCommit with
      | some _ => simp [List.countP_cons, hset, (hs tid).1, Faults.missable, hw]
      | none =>
        -- the user the trigger looks up has a webhook URL, and the trigger's commit passes
        obtain ⟨t', a', u, url, ht', ha', hu, hurl, hne⟩ := hh
        simp only [trigger_transactions, record_transactions, ht, Option.some.injEq] at ht'
        subst ht'
        simp only [trigger_accounts, record_accounts, ha, Option.some.injEq] at ha'
        subst ha'
        have hj' := trigger_hooked f tid t a (db'.record e) (by simpa using hu) hurl hne hw
        rw [hjn, record_journal, hj, List.append_assoc, List.append_cancel_left_eq, List.cons_append,
          List.nil_append, List.cons.injEq] at hj'
        rw [hj'.2]
        simp [List.countP_cons, (hs tid).1, (hs tid).2]
    · simp [List.countP_cons, hset, (hs i).1, hi]

section SettleCalls

variable (f : Faults) (db : Db)

theorem complete_settleStep (service : TransactionType) (redis : Bool) (i : Nat) (b : String)
    (m : Option String) : SettleStep f.missable db (complete service redis f i b m db).1 := by
  rcases complete_cases f i db service redis b m with h | ⟨t, acc, moved, -, -, -, h⟩ <;> rw [h]
  · exact (NoSettle.refl db).settleStep _
  · exact .settle f (.inl ⟨_, rfl⟩) (by simp) (by simp) (by simp [Transaction.completedWith])

theorem failTransaction_settleStep (i : Nat) (c e : String) (r : Option String) :
    SettleStep f.missable db (failTransaction f i c e r db).1 := by
  unfold failTransaction
  split
  · exact (NoSettle.refl db).settleStep _
  rename_i t ht
  split
  · exact (NoSettle.refl db).settleStep _
  split
  · -- no account: the failure commits, and no user is looked up; nor is the row hooked
    rename_i hacc
    refine ⟨[.failed i], by simp, fun tid => ⟨fun h => ?_, fun ⟨t', a, u, url, ht', ha, _⟩ => ?_⟩⟩
    · have : i = tid := by simpa [Commit.settles] using h
      subst this; simp
    · by_cases hi : i = tid
      · subst hi
        simp only [record_transactions, setTransaction_transactions, Function.update_same,
          Option.some.injEq] at ht'
        subst ht'
        simp [hacc] at ha
      · simp [Commit.settles, hi]
  · exact .settle f (.inr rfl) (by simp) (by simp) (by simpa)

theorem perform_settleStep : ∀ c, SettleStep f.missable db (perform f c db).1
  | .createPendingDeposit a m c k t => by
    rcases createPendingDeposit_cases f db a m c k t with h | h <;> simp only [perform, h]
    exacts [(NoSettle.refl db).settleStep _, (NoSettle.of_frame (.inserted db.nextId) (by simp)
      fun _ => rfl).settleStep _]
  | .createPendingWithdrawal a m c k t => by
    rcases createPendingWithdrawal_cases f db a m c k t with h | h <;> simp only [perform, h]
    exacts [(NoSettle.refl db).settleStep _, (NoSettle.of_frame (.inserted db.nextId) (by simp)
      fun _ => rfl).settleStep _]
  | .updateStatus i s => by
    rcases updateStatus_cases f i db s with h | ⟨t, -, h⟩ <;> simp only [perform, h]
    exacts [(NoSettle.refl db).settleStep _, (NoSettle.of_frame (.statusSet i s) (by simp)
      fun _ => rfl).settleStep _]
  | .markPendingReview i r b => by
    rcases markPendingReview_cases f i db r b with h | ⟨t, -, h⟩ <;> simp only [perform, h]
    exacts [(NoSettle.refl db).settleStep _, (NoSettle.of_frame (.reviewed i) (by simp)
      fun _ => rfl).settleStep _]
  | .completeDeposit r i b m => complete_settleStep f db .Deposit r i b m
  | .completeWithdrawal r i b m => complete_settleStep f db .Withdrawal r i b m
  | .failDeposit i c e b => failTransaction_settleStep f db i c e b
  | .failWithdrawal i c e b => failTransaction_settleStep f db i c e b

theorem complete_owners (service : TransactionType) (redis : Bool) (tid : Nat) (b : String)
    (r : Option String) : (complete service redis f tid b r db).1.owners = db.owners := by
  rcases complete_cases f tid db service redis b r with h | ⟨t, acc, moved, -, ha, hm, h⟩ <;> rw [h]
  -- the balance moves; the account's user stays
  funext a
  by_cases hat : a = t.accountId
  · subst hat; simp [Db.owners, ha, (moveBalance_ok hm).2.1]
  · simp [Db.owners, hat]

theorem failTransaction_owners (tid : Nat) (c m : String) (r : Option String) :
    (failTransaction f tid c m r db).1.owners = db.owners := by
  rcases failTransaction_cases f tid db c m r with h | ⟨t, -, h | ⟨acc, h⟩⟩ <;> rw [h] <;>
    exact owners_congr (by simp)

-- No service call moves an account to another user, or changes a user.
theorem perform_owners : ∀ c, (perform f c db).1.owners = db.owners
  | .createPendingDeposit a m c k t => by
    rcases createPendingDeposit_cases f db a m c k t with h | h <;> simp only [perform, h]
    exact owners_congr (by simp)
  | .createPendingWithdrawal a m c k t => by
    rcases createPendingWithdrawal_cases f db a m c k t with h | h <;> simp only [perform, h]
    exact owners_congr (by simp)
  | .updateStatus i s => by
    rcases updateStatus_cases f i db s with h | ⟨t, -, h⟩ <;> simp only [perform, h]
    exact owners_congr (by simp)
  | .markPendingReview i r b => by
    rcases markPendingReview_cases f i db r b with h | ⟨t, -, h⟩ <;> simp only [perform, h]
    exact owners_congr (by simp)
  | .completeDeposit r i b m => complete_owners f db .Deposit r i b m
  | .completeWithdrawal r i b m => complete_owners f db .Withdrawal r i b m
  | .failDeposit i c m b => failTransaction_owners f db i c m b
  | .failWithdrawal i c m b => failTransaction_owners f db i c m b

theorem perform_users : ∀ c, (perform f c db).1.users = db.users
  | .createPendingDeposit a m c k t => by
    rcases createPendingDeposit_cases f db a m c k t with h | h <;> simp [perform, h]
  | .createPendingWithdrawal a m c k t => by
    rcases createPendingWithdrawal_cases f db a m c k t with h | h <;> simp [perform, h]
  | .updateStatus i s => by
    rcases updateStatus_cases f i db s with h | ⟨t, -, h⟩ <;> simp [perform, h]
  | .markPendingReview i r b => by
    rcases markPendingReview_cases f i db r b with h | ⟨t, -, h⟩ <;> simp [perform, h]
  | .completeDeposit r i b m => by
    rcases complete_cases f i db .Deposit r b m with h | ⟨t, acc, moved, -, -, -, h⟩ <;>
      simp [perform, completeDeposit, h]
  | .completeWithdrawal r i b m => by
    rcases complete_cases f i db .Withdrawal r b m with h | ⟨t, acc, moved, -, -, -, h⟩ <;>
      simp [perform, completeWithdrawal, h]
  | .failDeposit i c m b => by
    rcases failTransaction_cases f i db c m b with h | ⟨t, -, h | ⟨acc, h⟩⟩ <;> simp [perform, failDeposit, h]
  | .failWithdrawal i c m b => by
    rcases failTransaction_cases f i db c m b with h | ⟨t, -, h | ⟨acc, h⟩⟩ <;>
      simp [perform, failWithdrawal, h]

end SettleCalls

end PaymentGateway.Ledger
