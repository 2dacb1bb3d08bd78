import Mathlib.Algebra.Order.Ring.Nat
import PaymentGateway.Worker.System

namespace PaymentGateway.Worker

open PaymentGateway.Ledger PaymentGateway.Api Db

theorem completeTransaction_completion (kind : TransactionType) (tid : Nat) (r : BankResponse) :
    (completeTransaction kind tid r).completion = some (tid, kind) := by
  cases kind <;> rfl

theorem failTransactionCall_completion (kind : TransactionType) (tid : Nat) (r : BankResponse) :
    (failTransactionCall kind tid r).completion = none := by
  cases kind <;> rfl

-- A completion the system makes is of the row its job or its callback names, by the
-- service of that row's type.
theorem callOf_completion {x : Execution} {i : Input} {c : Call} (h : callOf x i = some c)
    {tid : Nat} {k : TransactionType} (hc : c.completion = some (tid, k)) :
    tid = x.job.transactionId ∧ k = x.job.kind := by
  unfold callOf at h
  split at h <;> (try split at h) <;> cases h
  all_goals first
    | (rw [completeTransaction_completion] at hc; cases hc; exact ⟨rfl, rfl⟩)
    | (rw [failTransactionCall_completion] at hc; cases hc)
    | cases hc

theorem callbackCall_completion {t : Transaction} {p : CallbackPayload} {tid : Nat}
    {k : TransactionType} (hc : (callbackCall t p).completion = some (tid, k)) :
    tid = p.transactionId ∧ k = t.transactionType := by
  unfold callbackCall at hc
  split at hc <;> simp_all [Call.completion]

theorem createCall_completion (kind : TransactionType) (acc : Nat) (amount : Int) (cur : String) :
    (createCall kind acc amount cur).completion = none := by
  cases kind <;> rfl

-- A job names a row of its own kind.
def JobTyped (db : Db) (j : Job) : Prop :=
  ∃ t, db.transactions j.transactionId = some t ∧ t.transactionType = j.kind

theorem JobTyped.extend {db db' : Db} {j : Job} (h : JobTyped db j) (hx : Extends db db') :
    JobTyped db' j := by
  obtain ⟨t, ht, hk⟩ := h
  obtain ⟨t', ht', -, hk', -⟩ := hx _ t ht
  exact ⟨t', ht', hk'.trans hk⟩

-- What every run keeps: fresh ids, completions of their own rows' type, and jobs naming rows
-- of their own kind.
structure System.Typed (s : System) : Prop where
  fresh : s.db.Fresh
  completions : s.db.CompletionsTyped
  jobs : s.AllJobs (JobTyped s.db)

theorem System.Typed.init {db : Db} (hf : db.Fresh) (hj : db.journal = []) : (System.init db).Typed :=
  ⟨hf, fun _ _ h => by simp [System.init, hj] at h, by simp [System.AllJobs, System.init]⟩

theorem completionsTyped_step {s : System} (h : s.Typed) (a : Action) :
    (s.step a).db.CompletionsTyped := by
  rcases s.step_db a with hs | ⟨x, hx, i, c, hc, hs⟩ | ⟨t, p, f, ht, hs⟩ |
      ⟨kind, f, acc, u, m, cur, task, hs⟩ | ⟨k, d, d', -, -, hs⟩ <;> rw [hs]
  · exact h.completions
  · refine perform_completionsTyped _ _ h.fresh h.completions c fun tid k hk => ?_
    obtain ⟨rfl, rfl⟩ := callOf_completion hc hk
    exact h.jobs.2.1 x hx
  · refine perform_completionsTyped _ _ h.fresh h.completions _ fun tid k hk => ?_
    obtain ⟨rfl, rfl⟩ := callbackCall_completion hk
    exact ⟨t, ht, rfl⟩
  · have hc := perform_completionsTyped f.service s.db h.fresh h.completions
      (createCall kind acc m cur) fun tid k hk => by simp [createCall_completion] at hk
    rcases createTransaction_db kind f acc u m cur task s.db with hs | ⟨t, ht, hs⟩ <;> rw [hs]
    exacts [hc, hc.taskRecorded ht task]
  · exact h.completions

theorem System.Typed.step {s : System} (h : s.Typed) (a : Action) : (s.step a).Typed := by
  have P := s.step_preserves a
  have hx := P.rows h.fresh
  obtain ⟨hq, hr, hd⟩ := h.jobs
  refine ⟨P.fresh h.fresh, completionsTyped_step h a, System.step_allJobs
    ⟨fun m hm => (hq m hm).extend hx, fun y hy => (hr y hy).extend hx,
      fun m hm => (hd m hm).extend hx⟩ a ?_⟩
  rintro kind f acc user amount cur task j rfl hj
  obtain ⟨rfl, t, ht, hk⟩ := createTransaction_job kind f acc user amount cur task s.db hj
  exact ⟨t, ht, hk⟩

theorem System.Typed.run : ∀ {s : System}, s.Typed → ∀ actions, (s.run actions).Typed
  | _, h, [] => h
  | _, h, a :: rest => (h.step a).run rest

section Ledger

-- What a committed completion moved on an account, by its row's type and amount.
def completionAmount (db : Db) (accountId : Nat) : Commit → Int
  | .completed tid _ =>
    match db.transactions tid with
    | some t => if t.accountId = accountId then signedAmount t.transactionType t.amount else 0
    | none => 0
  | _ => 0

theorem completionDelta_eq_completionAmount {db : Db} (hT : db.CompletionsTyped) {e : Commit}
    (he : e ∈ db.journal) (a : Nat) : completionDelta db a e = completionAmount db a e := by
  cases e with
  | completed tid k =>
    obtain ⟨t, ht, rfl⟩ := hT tid k he
    simp [completionDelta, completionAmount, ht]
  | _ => rfl

theorem balance_tracks_completion_commits (s : System) (h : s.Typed) (actions : List Action)
    (a : Nat) :
    (s.run actions).db.balanceOf a = s.db.balanceOf a +
      (((s.run actions).db.journal.drop s.db.journal.length).map
        (completionAmount (s.run actions).db a)).sum := by
  obtain ⟨new, hj, -, hbal⟩ := (s.run_preserves actions).ledger h.fresh
  have hT := (h.run actions).completions
  rw [hbal, hj, List.drop_left, ledgerDelta]
  congr 2
  refine List.map_congr_left fun e he => completionDelta_eq_completionAmount hT ?_ a
  simp [hj, he]

-- The ledger the specification describes: the SUCCESS rows of the account, signed by their type.
def successLedger (db : Db) (accountId : Nat) : Int :=
  ((List.range db.nextId).map fun tid =>
    match db.transactions tid with
    | some t =>
      if t.accountId = accountId ∧ t.status = .Success then signedAmount t.transactionType t.amount
      else 0
    | none => 0).sum

-- The bank's callback for transaction 0, signed and within the window.
def successCallback : CallbackPayload := ⟨0, some "BANK-1", .Success, some "ok", none, 0⟩

-- A deposit of 50.00 is created, and the bank's SUCCESS callback for it arrives twice.
def duplicateCallback : List Action :=
  [.submit .Deposit .clean 0 0 5000 "USD" "task-1",
   .callback 0 true successCallback .clean,
   .callback 0 true successCallback .clean]

theorem duplicate_callback_credits_twice :
    (System.run (.init fundedDb) duplicateCallback).db.balanceOf 0 = 20000 ∧
    fundedDb.balanceOf 0 + successLedger (System.run (.init fundedDb) duplicateCallback).db 0 =
      15000 := by
  decide

theorem balance_tracks_completion_commits_duplicate :
    (System.init fundedDb).Typed ∧
    (System.run (.init fundedDb) duplicateCallback).db.balanceOf 0 = fundedDb.balanceOf 0 +
      (((System.run (.init fundedDb) duplicateCallback).db.journal.drop
        fundedDb.journal.length).map
        (completionAmount (System.run (.init fundedDb) duplicateCallback).db 0)).sum :=
  ⟨.init fundedDb_fresh rfl,
    balance_tracks_completion_commits (.init fundedDb) (.init fundedDb_fresh rfl)
      duplicateCallback 0⟩

end Ledger

section Statuses

-- Along every run no row is lost, and a status that changes changes to one other than
-- PENDING.
theorem statuses_never_return_to_pending (s : System) (hf : s.db.Fresh)
    (actions : List Action) : StatusStep s.db (s.run actions).db :=
  (System.run_rel (fun db db' => db.Fresh → db'.Fresh ∧ StatusStep db db')
    (fun db hf => ⟨hf, .refl db⟩)
    (fun h₁ h₂ hf => ⟨(h₂ (h₁ hf).1).1, (h₁ hf).2.trans (h₂ (h₁ hf).1).2⟩)
    (fun f c db hc hf => ⟨(perform_preserves f db c).fresh hf, perform_statusStep f db hf c hc⟩)
    (fun db tid t task ht hf => ⟨(taskRecorded_preserves db tid t task ht).fresh hf,
      .of_update tid { t with celeryTaskId := some task } (by simp)
        fun u hu => .inl (by rw [ht] at hu; cases hu; rfl)⟩)
    (fun db _ _ _ _ _ hf => ⟨hf, .of_rows fun _ _ hu => hu⟩)
    s actions hf).2

-- The bank answers SUCCESS, and no service call fails.
def okResponse : BankResponse := ⟨.Success, some "BANK-1", some "ok", none⟩

def okInput : Input := ⟨.clean, none, .response okResponse⟩

-- A worker finishes a deposit while the broker keeps its message (late ack and a lost
-- worker); the message is delivered again and the second execution starts.
def redeliveredJob : List Action :=
  [.submit .Deposit .clean 0 0 5000 "USD" "task-1", .deliver 0 true,
   .advance 0 okInput, .advance 0 okInput, .advance 0 okInput,
   .deliver 0 false, .advance 1 okInput]

theorem redelivery_reopens_success :
    ((System.run (.init fundedDb) (redeliveredJob.take 5)).db.transactions 0).map
        Transaction.status = some .Success ∧
    ((System.run (.init fundedDb) redeliveredJob).db.transactions 0).map
        Transaction.status = some .Processing := by
  decide

theorem statuses_never_return_to_pending_redelivered :
    (System.init fundedDb).db.Fresh ∧
    StatusStep (System.init fundedDb).db (System.run (.init fundedDb) redeliveredJob).db :=
  ⟨fundedDb_fresh, statuses_never_return_to_pending (.init fundedDb) fundedDb_fresh redeliveredJob⟩

end Statuses

section Notifications

-- The notifications the action's service call can fail to commit: one, where its webhook commit
-- raises.
def Action.missable : Action → Nat
  | .advance _ input => input.faults.missable
  | .callback _ _ _ f => f.missable
  | _ => 0

theorem createCall_noSettle (f : Faults) (kind : TransactionType) (acc : Nat) (amount : Int)
    (cur : String) (db : Db) : NoSettle db (perform f (createCall kind acc amount cur) db).1 := by
  cases kind
  · rcases createPendingDeposit_cases f db acc amount cur none none with h | h <;>
      simp only [createCall, perform, h]
    exacts [.refl db, .of_frame (.inserted db.nextId) (by simp) fun _ => rfl]
  · rcases createPendingWithdrawal_cases f db acc amount cur none none with h | h <;>
      simp only [createCall, perform, h]
    exacts [.refl db, .of_frame (.inserted db.nextId) (by simp) fun _ => rfl]

namespace System

theorem step_settles (s : System) (a : Action) : SettleStep a.missable s.db (s.step a).db := by
  have keep : ∀ k, SettleStep k s.db s.db := fun k => (NoSettle.refl _).settleStep k
  cases a with
  | submit kind f acc user amount cur task =>
    have hc := createCall_noSettle f.service kind acc amount cur s.db
    show SettleStep 0 s.db (createTransaction kind f acc user amount cur task s.db).1
    rcases createTransaction_db kind f acc user amount cur task s.db with h | ⟨t, -, h⟩ <;> rw [h]
    exacts [hc.settleStep 0,
      (hc.trans (.of_frame (.taskRecorded s.db.nextId) (by simp) fun _ => rfl)).settleStep 0]
  | deliver i r => simp only [step]; split <;> exact keep _
  | advance i input =>
    simp only [step]
    split
    · exact keep _
    · rw [advance_db]
      split
      exacts [perform_settleStep input.faults s.db _, keep _]
  | settle i => simp only [step]; repeat' split
                all_goals exact keep _
  | replay i => simp only [step]; split <;> exact keep _
  | callback now valid p f =>
    rcases bankCallback_db now valid p f s.db with h | ⟨t, -, h⟩ <;> simp only [step, h]
    exacts [keep _, perform_settleStep f s.db _]
  | hook k outcomes =>
    simp only [step]
    split
    · exact keep _
    · rename_i id _
      rcases runWebhookTask_db id outcomes s.db with h | ⟨k, d, d', -, -, h⟩ <;> rw [h]
      exacts [keep _, (NoSettle.setDelivery _ _ _).settleStep _]

theorem run_notifyStep (s : System) (actions : List Action) : NotifyStep s.db (s.run actions).db :=
  run_rel NotifyStep .refl .trans (fun f c db _ => perform_notifyStep f db c)
    (fun _ tid _ _ _ => .of_frame (.taskRecorded tid) (by simp) (by simp) fun _ => rfl)
    (fun _ _ _ _ hd ht => .setDelivery hd ht) s actions

theorem run_owners (s : System) (actions : List Action) : (s.run actions).db.owners = s.db.owners :=
  run_rel (fun db db' => db'.owners = db.owners) (fun _ => rfl) (fun h₁ h₂ => h₂.trans h₁)
    (fun f c db _ => perform_owners f db c) (fun _ _ _ _ _ => rfl) (fun _ _ _ _ _ _ => rfl) s actions

theorem run_users (s : System) (actions : List Action) : (s.run actions).db.users = s.db.users :=
  run_rel (fun db db' => db'.users = db.users) (fun _ => rfl) (fun h₁ h₂ => h₂.trans h₁)
    (fun f c db _ => perform_users f db c) (fun _ _ _ _ _ => rfl) (fun _ _ _ _ _ _ => rfl) s actions

-- What a row looks up for its webhook stays along a run: its account, the account's user and
-- the users; so a row hooked at the end was hooked all along.
theorem run_hooked (s : System) (hf : s.db.Fresh) (actions : List Action) {tid : Nat}
    (ht : (s.db.transactions tid).isSome) (h : (s.run actions).db.Hooked tid) : s.db.Hooked tid := by
  obtain ⟨t, ht⟩ := Option.isSome_iff_exists.mp ht
  obtain ⟨t', a', u, url, ht', ha', hu, hurl, hne⟩ := h
  obtain ⟨t'', ht'', hacc, -⟩ := (s.run_preserves actions).rows hf tid t ht
  rw [ht', Option.some.injEq] at ht''
  subst ht''
  have ho := congrFun (s.run_owners actions) t.accountId
  rw [Db.owners, Db.owners, ← hacc, ha', Option.map_some'] at ho
  obtain ⟨a, ha, hau⟩ := Option.map_eq_some'.mp ho.symm
  exact ⟨t, a, u, url, ht, hacc ▸ ha, by rw [hau, ← s.run_users actions]; exact hu, hurl, hne⟩

theorem run_settles (s : System) (hf : s.db.Fresh) (actions : List Action) :
    SettleStep (actions.map Action.missable).sum s.db (s.run actions).db := by
  induction actions generalizing s with
  | nil => exact (NoSettle.refl _).settleStep _
  | cons a rest ih =>
    have hf' := (s.step_preserves a).fresh hf
    refine (s.step_settles a).trans (ih _ hf') (fun tid h => ?_)
      fun tid h => (s.step a).run_hooked hf' rest h
    obtain ⟨t, ht⟩ := Option.isSome_iff_exists.mp h
    obtain ⟨t', ht', -⟩ := ((s.step a).run_preserves rest).rows hf' tid t ht
    simp [ht']

end System

-- `fundedDb` with a webhook URL for the user.
def hookedDb : Db :=
  { fundedDb with users := fun u => if u = 0 then some ⟨some "merchant-hook"⟩ else none }

-- Along every run from fresh ids, each delivery row added for a transaction is the webhook of a
-- completion or a failure of it committed in the run, at most one for each such commit; and for
-- a transaction whose user has a webhook URL, each such commit has its row, but where the
-- trigger's own commit raised, which a service call whose webhook commit raises can do once.
theorem deliveries_follow_settlements (s : System) (hf : s.db.Fresh) (actions : List Action) :
    ∃ new, (s.run actions).db.journal = s.db.journal ++ new ∧ ∀ tid,
      (s.run actions).db.deliveriesFor tid = s.db.deliveriesFor tid + new.countP (Commit.notifies tid) ∧
      new.countP (Commit.notifies tid) ≤ new.countP (Commit.settles tid) ∧
      ((s.run actions).db.Hooked tid → new.countP (Commit.settles tid) ≤
        new.countP (Commit.notifies tid) + (actions.map Action.missable).sum) := by
  obtain ⟨new, hj, hn⟩ := s.run_notifyStep actions
  obtain ⟨new', hj', hs⟩ := s.run_settles hf actions
  rw [hj, List.append_cancel_left_eq] at hj'
  subst hj'
  exact ⟨new, hj, fun tid => ⟨(hn tid).1, (hn tid).2, (hs tid).2⟩⟩

theorem deliveries_follow_settlements_duplicate :
    (System.init hookedDb).db.Fresh ∧
    ∃ new, (System.run (.init hookedDb) duplicateCallback).db.journal = hookedDb.journal ++ new ∧ ∀ tid,
      (System.run (.init hookedDb) duplicateCallback).db.deliveriesFor tid =
        hookedDb.deliveriesFor tid + new.countP (Commit.notifies tid) ∧
      new.countP (Commit.notifies tid) ≤ new.countP (Commit.settles tid) ∧
      ((System.run (.init hookedDb) duplicateCallback).db.Hooked tid → new.countP (Commit.settles tid) ≤
        new.countP (Commit.notifies tid) + (duplicateCallback.map Action.missable).sum) :=
  ⟨fundedDb_fresh, deliveries_follow_settlements (.init hookedDb) fundedDb_fresh duplicateCallback⟩

theorem duplicate_callback_notifies_twice :
    ((System.run (.init hookedDb) duplicateCallback).db.transactions 0).map
        Transaction.status = some .Success ∧
    (System.run (.init hookedDb) duplicateCallback).db.deliveriesFor 0 = 2 := by
  decide

end Notifications

end PaymentGateway.Worker
