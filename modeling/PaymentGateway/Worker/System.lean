import PaymentGateway.Api.Transactions
import PaymentGateway.Ledger.History
import PaymentGateway.Worker.WebhookDelivery

namespace PaymentGateway.Worker

open PaymentGateway.Ledger PaymentGateway.Api

-- The rows, the broker's task messages (a job and its `request.retries`), the executions in
-- progress, the messages `DLQTask.on_failure` published to `transactions.dlq` in order, and the
-- deliveries whose message it sent to `webhooks.dlq`. `bankCalls` (every bank call with its
-- outcome), `started` (the transaction of every execution started) and `replayed` (the DLQ
-- message of every job a replay re-sent) are history variables.
structure System where
  db : Db
  queue : List (Job × Nat)
  running : List Execution
  dlq : List (Job × Nat)
  bankCalls : List (Nat × BankOutcome)
  started : List Nat
  replayed : List Nat
  webhookDlq : List Nat

-- `submit`: a `POST /deposits` or `/withdrawals` handled by `create_transaction`.
-- `deliver i redeliver`: a worker takes message `i`; with `redeliver` the broker keeps it
-- (late ack and a lost worker), so it is delivered again later. `advance`: one step of an
-- execution. `settle`: Celery acknowledges, retries or dead-letters a finished execution.
-- `replay i`: the `send_task` of a replay puts the job of DLQ message `i` back on the main
-- queue, as a new task. `callback`: a `POST /webhooks/bank-callback`. `hook k outcomes`: Celery's
-- executions of the `k`-th `send_webhook_notification.delay` message, each POST getting the next
-- outcome; no other code writes a delivery row, so they are taken together, and with late
-- acknowledgement a message can be executed again.
inductive Action
  | submit (kind : TransactionType) (f : CreateFaults) (accountId userId : Nat) (amount : Int)
      (currency taskId : String)
  | deliver (index : Nat) (redeliver : Bool)
  | advance (index : Nat) (input : Input)
  | settle (index : Nat)
  | replay (index : Nat)
  | callback (now : Int) (signatureValid : Bool) (payload : CallbackPayload) (f : Faults)
  | hook (index : Nat) (outcomes : List PostOutcome)

namespace System

def init (db : Db) : System := ⟨db, [], [], [], [], [], [], []⟩

def step (s : System) : Action → System
  | .submit kind f acc user amount cur task =>
    let created := createTransaction kind f acc user amount cur task s.db
    { s with db := created.1, queue := s.queue ++ created.2.1.toList.map fun j => (j, 0) }
  | .deliver i redeliver =>
    match s.queue[i]? with
    | none => s
    | some (job, retries) =>
      { s with
        queue := if redeliver then s.queue else s.queue.eraseIdx i
        running := s.running ++ [⟨job, retries, .start⟩]
        started := s.started ++ [job.transactionId] }
  | .advance i input =>
    match s.running[i]? with
    | none => s
    | some x =>
      let next := Worker.advance x input s.db
      { s with
        db := next.1, running := s.running.set i { x with stage := next.2 }
        bankCalls := if x.stage = .calling then s.bankCalls ++ [(x.job.transactionId, input.bank)]
          else s.bankCalls }
  | .settle i =>
    match s.running[i]? with
    | none => s
    | some x =>
      match x.stage with
      | .returned _ => { s with running := s.running.eraseIdx i }
      | .raised _ =>
        match celeryRetry x with
        | some m => { s with running := s.running.eraseIdx i, queue := s.queue ++ [m] }
        | none => { s with running := s.running.eraseIdx i, dlq := s.dlq ++ [(x.job, x.retries)] }
      | _ => s
  | .replay i =>
    match s.dlq[i]? with
    | none => s
    | some (job, _) => { s with queue := s.queue ++ [(job, 0)], replayed := s.replayed ++ [i] }
  | .callback now valid p f => { s with db := (bankCallback now valid p f s.db).1 }
  | .hook k outcomes =>
    match s.db.webhookQueue[k]? with
    | none => s
    | some id =>
      let done := runWebhookTask id outcomes s.db
      { s with db := done.1, webhookDlq := if done.2 then s.webhookDlq ++ [id] else s.webhookDlq }

def run (s : System) : List Action → System
  | [] => s
  | a :: rest => (s.step a).run rest

@[simp] theorem run_nil (s : System) : s.run [] = s := rfl

@[simp] theorem run_cons (s : System) (a : Action) (rest : List Action) :
    s.run (a :: rest) = (s.step a).run rest := rfl

-- A property of every job the system holds: queued, running or dead-lettered.
def AllJobs (P : Job → Prop) (s : System) : Prop :=
  (∀ m ∈ s.queue, P m.1) ∧ (∀ x ∈ s.running, P x.job) ∧ ∀ m ∈ s.dlq, P m.1

-- What one step does to the rows: nothing, one service call of an execution in progress or
-- of a verified callback, a creation, or one delivery row rewritten by a webhook task.
theorem step_db (s : System) (a : Action) :
    (s.step a).db = s.db ∨
    (∃ x ∈ s.running, ∃ i c, callOf x i = some c ∧
      (s.step a).db = (perform i.faults c s.db).1) ∨
    (∃ t p f, s.db.transactions p.transactionId = some t ∧
      (s.step a).db = (perform f (callbackCall t p) s.db).1) ∨
    (∃ kind f acc user amount cur task,
      (s.step a).db = (createTransaction kind f acc user amount cur task s.db).1) ∨
    (∃ k d d', s.db.deliveries[k]? = some d ∧ d'.transactionId = d.transactionId ∧
      (s.step a).db = s.db.setDelivery k d') := by
  cases a with
  | submit kind f acc user amount cur task => exact .inr (.inr (.inr (.inl ⟨_, _, _, _, _, _, _, rfl⟩)))
  | deliver i r => exact .inl (by simp only [step]; split <;> rfl)
  | advance i input =>
    simp only [step]
    split
    · exact .inl rfl
    · rename_i x hx
      rw [advance_db]
      split
      · exact .inr (.inl ⟨x, List.getElem?_mem hx, input, _, ‹_›, rfl⟩)
      · exact .inl rfl
  | settle i => exact .inl (by simp only [step]; repeat' split <;> try rfl)
  | replay i => exact .inl (by simp only [step]; split <;> rfl)
  | callback now valid p f =>
    rcases bankCallback_db now valid p f s.db with h | ⟨t, ht, h⟩
    · exact .inl h
    · exact .inr (.inr (.inl ⟨t, p, f, ht, h⟩))
  | hook k outcomes =>
    simp only [step]
    split
    · exact .inl rfl
    · rename_i id _
      rcases runWebhookTask_db id outcomes s.db with h | h
      exacts [.inl h, .inr (.inr (.inr (.inr h)))]

-- A step moves jobs between the queue, the workers and the DLQ; the only new job is the one
-- a creation enqueues.
theorem step_allJobs {P : Job → Prop} {s : System} (h : s.AllJobs P) (a : Action)
    (hnew : ∀ kind f acc user amount cur task j, a = .submit kind f acc user amount cur task →
      (createTransaction kind f acc user amount cur task s.db).2.1 = some j → P j) :
    (s.step a).AllJobs P := by
  obtain ⟨hq, hr, hd⟩ := h
  have erase : ∀ {α} (l : List α) (i : Nat) (Q : α → Prop), (∀ y ∈ l, Q y) → ∀ y ∈ l.eraseIdx i, Q y :=
    fun _ _ _ h y hy => h y (List.mem_of_mem_eraseIdx hy)
  cases a with
  | submit kind f acc user amount cur task =>
    refine ⟨List.forall_mem_append.2 ⟨hq, ?_⟩, hr, hd⟩
    simp only [List.forall_mem_map]
    intro j hj
    exact hnew _ _ _ _ _ _ _ j rfl (Option.mem_toList.mp hj)
  | deliver i r =>
    simp only [step]
    split
    · exact ⟨hq, hr, hd⟩
    · rename_i job retries hi
      refine ⟨?_, List.forall_mem_append.2 ⟨hr, ?_⟩, hd⟩
      · split
        exacts [hq, erase _ _ _ hq]
      · simpa using hq _ (List.getElem?_mem hi)
  | advance i input =>
    simp only [step]
    split
    · exact ⟨hq, hr, hd⟩
    · rename_i x hx
      refine ⟨hq, fun y hy => ?_, hd⟩
      rcases List.mem_or_eq_of_mem_set hy with hy | rfl
      exacts [hr y hy, hr x (List.getElem?_mem hx)]
  | settle i =>
    simp only [step]
    split
    · exact ⟨hq, hr, hd⟩
    · rename_i x hx
      have hx := hr x (List.getElem?_mem hx)
      split
      · exact ⟨hq, erase _ _ _ hr, hd⟩
      · split
        · rename_i m hm
          rw [(celeryRetry_eq_some hm).2.2]
          exact ⟨List.forall_mem_append.2 ⟨hq, by simpa using hx⟩, erase _ _ _ hr, hd⟩
        · exact ⟨hq, erase _ _ _ hr, List.forall_mem_append.2 ⟨hd, by simpa using hx⟩⟩
      · exact ⟨hq, hr, hd⟩
  | replay i =>
    simp only [step]
    split
    · exact ⟨hq, hr, hd⟩
    · rename_i job retries hi
      exact ⟨List.forall_mem_append.2 ⟨hq, by simpa using hd _ (List.getElem?_mem hi)⟩, hr, hd⟩
  | callback now valid p f => exact ⟨hq, hr, hd⟩
  | hook k outcomes => simp only [step]; split <;> exact ⟨hq, hr, hd⟩

end System

-- No call the system makes sets a row back to PENDING.
theorem createCall_setsPending (kind : TransactionType) (acc : Nat) (amount : Int) (cur : String) :
    (createCall kind acc amount cur).setsPending = false := by
  cases kind <;> rfl

theorem callbackCall_setsPending (t : Transaction) (p : CallbackPayload) :
    (callbackCall t p).setsPending = false := by
  unfold callbackCall; split <;> rfl

theorem callOf_setsPending {x : Execution} {i : Input} {c : Call} (h : callOf x i = some c) :
    c.setsPending = false := by
  unfold callOf at h
  split at h <;> (try split at h) <;> cases h
  all_goals first | rfl | (simp only [completeTransaction, failTransactionCall]; split <;> rfl)

section Relation

open System

-- A relation on the rows that every service call the system makes, the commit of a task id,
-- and a webhook task's rewrite of a delivery row establish; it then holds across every run.
variable (R : Db → Db → Prop) (hrefl : ∀ db, R db db)
  (htrans : ∀ {db db' db''}, R db db' → R db' db'' → R db db'')
  (hcall : ∀ f c db, c.setsPending = false → R db (perform f c db).1)
  (htask : ∀ (db : Db) tid t task, db.transactions tid = some t →
    R db ((db.setTransaction tid { t with celeryTaskId := some task }).record (.taskRecorded tid)))
  (hhook : ∀ (db : Db) k d (d' : DeliveryRow), db.deliveries[k]? = some d →
    d'.transactionId = d.transactionId → R db (db.setDelivery k d'))

include hrefl htrans hcall htask hhook in
theorem System.step_rel (s : System) (a : Action) : R s.db (s.step a).db := by
  rcases s.step_db a with h | ⟨x, -, i, c, hc, h⟩ | ⟨t, p, f, -, h⟩ | ⟨kind, f, acc, u, m, cur, task, h⟩ |
      ⟨k, d, d', hd, ht, h⟩ <;> rw [h]
  · exact hrefl _
  · exact hcall _ _ _ (callOf_setsPending hc)
  · exact hcall _ _ _ (callbackCall_setsPending t p)
  · have hp := hcall f.service (createCall kind acc m cur) s.db (createCall_setsPending ..)
    rcases createTransaction_db kind f acc u m cur task s.db with h | ⟨t, ht, h⟩ <;> rw [h]
    · exact hp
    · exact htrans hp (htask _ _ t task ht)
  · exact hhook _ _ _ _ hd ht

include hrefl htrans hcall htask hhook in
theorem System.run_rel : ∀ (s : System) actions, R s.db (s.run actions).db
  | s, [] => hrefl s.db
  | s, a :: rest => htrans (s.step_rel R hrefl htrans hcall htask hhook a) (run_rel _ rest)

end Relation

open Db

theorem taskRecorded_preserves (db : Db) (tid : Nat) (t : Transaction) (task : String)
    (ht : db.transactions tid = some t) :
    Preserves db ((db.setTransaction tid { t with celeryTaskId := some task }).record
      (.taskRecorded tid)) :=
  .setRecord { t with celeryTaskId := some task } ht ⟨rfl, rfl, rfl⟩ (.taskRecorded tid) (by simp)

-- A webhook task touches no balance, no transaction row and no journal entry.
theorem setDelivery_preserves (db : Db) (k : Nat) (d : DeliveryRow) : Preserves db (db.setDelivery k d) :=
  .of_frame [] (by simp) rfl rfl (le_refl _) (by simp)

theorem System.step_preserves (s : System) (a : Action) : Preserves s.db (s.step a).db :=
  s.step_rel Preserves .refl .trans (fun f c db _ => perform_preserves f db c)
    taskRecorded_preserves (fun db k _ d _ _ => setDelivery_preserves db k d) a

theorem System.run_preserves (s : System) (actions : List Action) :
    Preserves s.db (s.run actions).db :=
  System.run_rel Preserves .refl .trans (fun f c db _ => perform_preserves f db c)
    taskRecorded_preserves (fun db k _ d _ _ => setDelivery_preserves db k d) s actions

end PaymentGateway.Worker
