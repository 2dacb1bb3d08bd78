import PaymentGateway.Worker.Exhaustion
import PaymentGateway.Worker.DeadLetter
import PaymentGateway.Bank.Simulator

namespace PaymentGateway.Worker

open PaymentGateway.Ledger PaymentGateway.Bank

namespace System

theorem run_append (s : System) (as bs : List Action) : s.run (as ++ bs) = (s.run as).run bs := by
  induction as generalizing s with
  | nil => rfl
  | cons a rest ih => exact ih _

theorem run_singleton (s : System) (a : Action) : s.run [a] = s.step a := rfl

section Frame

variable {s : System}

-- Only an `advance` calls the bank.
theorem step_bankCalls {a : Action} (h : ∀ i input, a ≠ .advance i input) :
    (s.step a).bankCalls = s.bankCalls := by
  cases a with
  | advance i input => exact absurd rfl (h i input)
  | _ => simp only [step]; repeat' split
         all_goals rfl

-- Only a `replay` re-sends a job.
theorem step_replayed {a : Action} (h : ∀ i, a ≠ .replay i) : (s.step a).replayed = s.replayed := by
  cases a with
  | replay i => exact absurd rfl (h i)
  | _ => simp only [step]; repeat' split
         all_goals rfl

-- The DLQ only grows.
theorem dlq_prefix_step (a : Action) : s.dlq <+: (s.step a).dlq := by
  cases a <;> simp only [step] <;> repeat' split
  all_goals first | exact List.prefix_refl _ | exact List.prefix_append _ _

theorem step_advance_bankCalls {i : Nat} {x : Execution} (hx : s.running[i]? = some x) (input : Input) :
    (s.step (.advance i input)).bankCalls =
      if x.stage = .calling then s.bankCalls ++ [(x.job.transactionId, input.bank)] else s.bankCalls := by
  simp only [step, hx]

theorem run_bankCalls {as : List Action} (h : ∀ a ∈ as, ∀ i input, a ≠ .advance i input) :
    (s.run as).bankCalls = s.bankCalls := by
  induction as generalizing s with
  | nil => rfl
  | cons a rest ih => rw [run_cons, ih fun b hb => h b (.tail _ hb), step_bankCalls (h a (.head _))]

-- Replays of messages the DLQ holds: each re-sends its job, and the DLQ stays.
theorem run_replays (ks : List Nat) (hk : ∀ k ∈ ks, k < s.dlq.length) :
    (s.run (ks.map .replay)).replayed = s.replayed ++ ks ∧ (s.run (ks.map .replay)).dlq = s.dlq := by
  induction ks generalizing s with
  | nil => exact ⟨(List.append_nil _).symm, rfl⟩
  | cons k rest ih =>
    have hget := List.getElem?_eq_getElem (hk k (List.mem_cons_self _ _))
    have hstep : (s.step (.replay k)).replayed = s.replayed ++ [k] ∧ (s.step (.replay k)).dlq = s.dlq := by
      simp [step, hget]
    obtain ⟨h₁, h₂⟩ := @ih (s.step (.replay k)) fun k' hm => hstep.2 ▸ hk k' (List.mem_cons_of_mem _ hm)
    rw [List.map_cons, run_cons, h₁, h₂, hstep.1, hstep.2, List.append_assoc, List.singleton_append]
    exact ⟨rfl, rfl⟩

end Frame

-- The count of failing bank answers since the bank's last success, over the answers the system
-- has had.
def bankStreak (s : System) : Nat := (s.bankCalls.map Prod.snd).foldl answerStreak 0

end System

theorem DlqSystem.run_singleton (s : DlqSystem) (a : DlqAction) : s.run [a] = s.step a := rfl

-- The task name of a transaction job: the `name=` of its Celery task.
def Job.taskName (j : Job) : String :=
  match j.kind with
  | .Deposit => "process_deposit"
  | .Withdrawal => "process_withdrawal"

-- One worker process's system with what drives it: the process's `_bank_circuit_breaker`, the
-- `failed_tasks` table with the calls of `replay_failed_task`, how many messages of
-- `transactions.dlq` `handle_failed_task` has consumed, and for each `failed_tasks` row the
-- message it was stored from.
structure Deployment where
  sys : System
  breaker : Breaker
  dlq : DlqSystem
  handled : Nat
  origin : List Nat

-- `worker a`: an action of the worker system that nothing else drives; an `advance` or a
-- `replay` given this way does nothing. `advance i input now later draw`: one step of execution
-- `i`, whose bank call goes through the breaker at the clock readings `now` and `later`, with what
-- the bank simulator draws. `handle taskId kwargs`: `handle_failed_task` consumes the next DLQ
-- message; its task id and the JSON of its keyword arguments, which the worker system does not
-- keep, come with it. `dlq a`: a step of a `replay_failed_task` call.
inductive Op
  | worker (a : Action)
  | advance (index : Nat) (input : Input) (now later : ℚ) (draw : Draw)
  | handle (taskId kwargs : String)
  | dlq (a : DlqAction)

-- The actions of the worker system that nothing else drives.
def Action.direct : Action → Bool
  | .advance _ _ | .replay _ => false
  | _ => true

namespace Deployment

def init (db : Db) : Deployment := ⟨.init db, Breaker.init, .init, 0, []⟩

-- What `DLQTask.on_failure` publishes for a job: its task, no positional arguments, and the
-- keyword arguments.
def dlqMessage (job : Job) (taskId kwargs : String) : DlqMessage := ⟨taskId, job.taskName, "[]", kwargs⟩

def step (d : Deployment) : Op → Deployment
  | .worker a => if a.direct then { d with sys := d.sys.step a } else d
  | .advance i input now later draw =>
    match d.sys.running[i]? with
    | none => d
    | some x =>
      if x.stage = .calling then
        let call := callBank x.job.kind d.breaker now later draw
        { d with sys := d.sys.step (.advance i { input with bank := call.2 }), breaker := call.1 }
      else { d with sys := d.sys.step (.advance i input) }
  | .handle taskId kwargs =>
    match d.sys.dlq[d.handled]? with
    | none => d
    | some (job, _) =>
      let m := dlqMessage job taskId kwargs
      { d with
        dlq := d.dlq.step (.failed m), handled := d.handled + 1
        origin := match (handleFailedTask m d.dlq.store.records).2 with
          | .stored _ _ => d.origin ++ [d.handled]
          | .duplicate _ => d.origin }
  | .dlq a =>
    match a with
    | .failed _ => d
    | a =>
      -- each `send_task` puts the job of its row's message back on the main queue
      let next := d.dlq.step a
      { d with
        dlq := next
        sys := d.sys.run (((next.store.sends.drop d.dlq.store.sends.length).filterMap (d.origin[·]?)).map .replay) }

def run (d : Deployment) : List Op → Deployment
  | [] => d
  | op :: rest => (d.step op).run rest

@[simp] theorem run_nil (d : Deployment) : d.run [] = d := rfl

@[simp] theorem run_cons (d : Deployment) (op : Op) (rest : List Op) :
    d.run (op :: rest) = (d.step op).run rest := rfl

/-! Each part moves as its own model: the worker system by its actions, the DLQ by its steps. -/

theorem step_sys (d : Deployment) (op : Op) : ∃ actions, (d.step op).sys = d.sys.run actions := by
  cases op with
  | worker a =>
    simp only [step]
    split
    exacts [⟨[a], rfl⟩, ⟨[], rfl⟩]
  | advance i input now later draw =>
    simp only [step]
    split
    · exact ⟨[], rfl⟩
    · split <;> exact ⟨[_], by rw [System.run_singleton]⟩
  | handle taskId kwargs =>
    simp only [step]
    split <;> exact ⟨[], rfl⟩
  | dlq a =>
    simp only [step]
    split
    exacts [⟨[], rfl⟩, ⟨_, rfl⟩]

theorem run_sys (d : Deployment) (ops : List Op) : ∃ actions, (d.run ops).sys = d.sys.run actions := by
  induction ops generalizing d with
  | nil => exact ⟨[], rfl⟩
  | cons op rest ih =>
    obtain ⟨as, ha⟩ := d.step_sys op
    obtain ⟨bs, hb⟩ := ih (d.step op)
    exact ⟨as ++ bs, by rw [run_cons, hb, ha, System.run_append]⟩

theorem step_dlq (d : Deployment) (op : Op) : ∃ actions, (d.step op).dlq = d.dlq.run actions := by
  cases op with
  | worker a =>
    simp only [step]
    split <;> exact ⟨[], rfl⟩
  | advance i input now later draw =>
    simp only [step]
    repeat' split
    all_goals exact ⟨[], rfl⟩
  | handle taskId kwargs =>
    simp only [step]
    split
    exacts [⟨[], rfl⟩, ⟨[_], by rw [DlqSystem.run_singleton]⟩]
  | dlq a =>
    simp only [step]
    split
    exacts [⟨[], rfl⟩, ⟨[_], by rw [DlqSystem.run_singleton]⟩]

theorem run_dlq (d : Deployment) (ops : List Op) : ∃ actions, (d.run ops).dlq = d.dlq.run actions := by
  induction ops generalizing d with
  | nil => exact ⟨[], rfl⟩
  | cons op rest ih =>
    obtain ⟨as, ha⟩ := d.step_dlq op
    obtain ⟨bs, hb⟩ := ih (d.step op)
    exact ⟨as ++ bs, by rw [run_cons, hb, ha, DlqSystem.run_append]⟩

/-! The breaker the workers' bank calls drive. -/

-- A bank call through the breaker: the breaker runs the adapter's calls, and the answer moves the
-- failure count as those calls move the breaker's streak.
theorem healthy_callBank {n : Nat} {b : Breaker} (h : Breaker.Healthy bankApi n b) (kind : TransactionType)
    (now later : ℚ) (draw : Draw) :
    Breaker.Healthy bankApi (answerStreak n (callBank kind b now later draw).2)
      (callBank kind b now later draw).1 := by
  have hb := callBank_breaker ⟨kind, now, later, draw⟩ b
  have hs := breakerCalls_streak b ⟨kind, now, later, draw⟩ n
  simp only at hb hs
  rw [hb, ← hs]
  exact h.run (by decide) (by decide) _

theorem step_healthy {d : Deployment} (h : Breaker.Healthy bankApi d.sys.bankStreak d.breaker) (op : Op) :
    Breaker.Healthy bankApi (d.step op).sys.bankStreak (d.step op).breaker := by
  cases op with
  | worker a =>
    simp only [step]
    split
    · rename_i ha
      have hne : ∀ i input, a ≠ .advance i input := by rintro i input rfl; cases ha
      simpa only [System.bankStreak, System.step_bankCalls hne] using h
    · exact h
  | advance i input now later draw =>
    simp only [step]
    split
    · exact h
    · rename_i x hx
      split
      · rename_i hc
        simp only [System.bankStreak, System.step_advance_bankCalls hx, hc, if_true, List.map_append,
          List.foldl_append, List.map_singleton, List.foldl_cons, List.foldl_nil]
        exact healthy_callBank h _ _ _ _
      · rename_i hc
        simpa only [System.bankStreak, System.step_advance_bankCalls hx, hc, if_false] using h
  | handle taskId kwargs =>
    simp only [step]
    split <;> exact h
  | dlq a =>
    simp only [step]
    split
    · exact h
    · rw [System.bankStreak, System.run_bankCalls]
      · exact h
      · simp only [List.mem_map]
        rintro _ ⟨k, -, rfl⟩ i input ⟨⟩

theorem run_healthy {d : Deployment} (h : Breaker.Healthy bankApi d.sys.bankStreak d.breaker) (ops : List Op) :
    Breaker.Healthy bankApi (d.run ops).sys.bankStreak (d.run ops).breaker := by
  induction ops generalizing d with
  | nil => exact h
  | cons op rest ih => exact ih (step_healthy h op)

/-! How the parts hang together. -/

theorem getElem?_of_prefix {α : Type} {l l' : List α} (h : l <+: l') {k : Nat} (hk : k < l.length) :
    l'[k]? = l[k]? := by
  obtain ⟨t, rfl⟩ := h
  exact List.getElem?_append_left hk

-- Each `failed_tasks` row has the DLQ message it was stored from, a message the workers published
-- for a job of the row's task; and the jobs replays re-sent are the DLQ's `send_task`s, each the
-- job of the message its row was stored from.
structure Linked (d : Deployment) : Prop where
  sound : d.dlq.Sound
  origins : d.origin.length = d.dlq.store.records.length
  named : ∀ (rid k : Nat), d.origin[rid]? = some k → ∃ (job : Job) (retries : Nat), d.sys.dlq[k]? = some (job, retries) ∧
    (d.dlq.store.records[rid]?).map (fun r : FailedTask => r.taskName) = some job.taskName
  replayed : d.sys.replayed = d.dlq.store.sends.filterMap (d.origin[·]?)

theorem Linked.init (db : Db) : (init db).Linked :=
  ⟨.init, rfl, fun _ _ h => (by cases h), rfl⟩

section Linked

variable {d : Deployment}

-- A step of the worker system other than a replay keeps the links.
theorem Linked.of_sys (h : d.Linked) {d' : Deployment} (hdlq : d'.dlq = d.dlq) (horigin : d'.origin = d.origin)
    (a : Action) (hsys : d'.sys = d.sys.step a) (ha : ∀ i, a ≠ .replay i) : d'.Linked where
  sound := hdlq ▸ h.sound
  origins := hdlq ▸ horigin ▸ h.origins
  named rid k hk := by
    rw [horigin] at hk
    obtain ⟨job, retries, hj, hn⟩ := h.named rid k hk
    refine ⟨job, retries, ?_, hdlq ▸ hn⟩
    rw [hsys, getElem?_of_prefix (System.dlq_prefix_step a) (List.getElem?_eq_some_iff.mp hj).1, hj]
  replayed := by rw [hsys, hdlq, horigin, System.step_replayed ha, h.replayed]

-- `handle_failed_task` of the next message: a new row is linked to it.
theorem Linked.handle (h : d.Linked) (taskId kwargs : String) : (d.step (.handle taskId kwargs)).Linked := by
  simp only [step]
  split
  · exact h
  rename_i job retries hget
  have hsound := h.sound.step (.failed (dlqMessage job taskId kwargs))
  rcases handleFailedTask_cases (dlqMessage job taskId kwargs) d.dlq.store.records with
    ⟨t, h₂, h₁⟩ | ⟨t, k, h₂, h₁⟩ <;> simp only [h₂]
  · -- a duplicate: the table is as it was
    have hrec : (d.dlq.step (.failed (dlqMessage job taskId kwargs))).store.records = d.dlq.store.records := h₁
    exact ⟨hsound, hrec ▸ h.origins, fun rid k hk => hrec ▸ h.named rid k hk, h.replayed⟩
  · have hrec : (d.dlq.step (.failed (dlqMessage job taskId kwargs))).store.records =
        d.dlq.store.records ++ [⟨taskId, job.taskName, "[]", kwargs, none, none, none⟩] := h₁
    refine ⟨hsound, by simp [hrec, h.origins], fun rid k hk => ?_, ?_⟩
    · rw [hrec]
      by_cases hlt : rid < d.origin.length
      · rw [List.getElem?_append_left hlt] at hk
        rw [List.getElem?_append_left (h.origins ▸ hlt)]
        exact h.named rid k hk
      · -- the new row, of the message just handled
        have hrid : rid = d.origin.length := by
          have := (List.getElem?_eq_some_iff.mp hk).1
          simp only [List.length_append, List.length_singleton] at this
          omega
        subst hrid
        rw [List.getElem?_concat_length, Option.some.injEq] at hk
        subst hk
        rw [h.origins, List.getElem?_concat_length]
        exact ⟨job, retries, hget, rfl⟩
    · rw [h.replayed]
      refine List.filterMap_congr fun rid hm => ?_
      exact (List.getElem?_append_left (h.origins ▸ h.sound.sends rid hm)).symm

-- A step of a replay call: its `send_task` re-sends the job of its row's message.
theorem Linked.dlq (h : d.Linked) (a : DlqAction) : (d.step (.dlq a)).Linked := by
  simp only [step]
  split
  · exact h
  rename_i hne
  have ha : ∀ m, a ≠ .failed m := fun m he => hne m he
  obtain ⟨new, hnew⟩ := DlqSystem.step_sends_prefix d.dlq a
  have hnames := DlqSystem.step_taskNames d.dlq ha
  have hlen : (d.dlq.step a).store.records.length = d.dlq.store.records.length := by
    simpa using congrArg List.length hnames
  -- every message a send re-sends is one the workers published
  have hk : ∀ k ∈ (new.filterMap (d.origin[·]?)), k < d.sys.dlq.length := fun k hm => by
    obtain ⟨rid, -, hrid⟩ := List.mem_filterMap.mp hm
    obtain ⟨_, _, hj, -⟩ := h.named rid k hrid
    exact (List.getElem?_eq_some_iff.mp hj).1
  rw [← hnew, List.drop_left]
  obtain ⟨hrep, hdlq⟩ := System.run_replays _ hk
  refine ⟨h.sound.step a, hlen ▸ h.origins, fun rid k hk' => ?_, ?_⟩
  · obtain ⟨job, retries, hj, hn⟩ := h.named rid k hk'
    refine ⟨job, retries, hdlq ▸ hj, ?_⟩
    rw [← List.getElem?_map, hnames, List.getElem?_map, hn]
  · simp only [hrep, h.replayed, ← hnew, List.filterMap_append]

theorem Linked.step (h : d.Linked) (op : Op) : (d.step op).Linked := by
  cases op with
  | worker a =>
    simp only [Deployment.step]
    split
    · rename_i hd
      exact h.of_sys rfl rfl a rfl fun i he => by subst he; cases hd
    · exact h
  | advance i input now later draw =>
    simp only [Deployment.step]
    split
    · exact h
    · rename_i x _
      split
      · exact h.of_sys rfl rfl (.advance i { input with bank := (callBank x.job.kind d.breaker now later draw).2 })
          rfl fun _ he => by cases he
      · exact h.of_sys rfl rfl (.advance i input) rfl fun _ he => by cases he
  | handle taskId kwargs => exact h.handle taskId kwargs
  | dlq a => exact h.dlq a

theorem Linked.run (h : d.Linked) (ops : List Op) : (d.run ops).Linked := by
  induction ops generalizing d with
  | nil => exact h
  | cons op rest ih => exact ih (h.step op)

end Linked

end Deployment

open Deployment

-- The breaker's invariant over every sequence of calls (CLOSED is left exactly on the
-- `failure_threshold`-th consecutive failure, and every OPEN state has a last failure time after
-- which `can_execute` lets a probe through into HALF_OPEN); and over every run of the deployment,
-- the breaker the workers' bank calls drive is in a state the invariant allows for the bank's
-- failing answers since its last success.
theorem breaker_invariant (c : Config) (hf : 1 ≤ c.failureThreshold) (hs : 1 ≤ c.successThreshold)
    (calls : List Bank.Call) :
    (Breaker.Healthy c (streak calls) (Breaker.init.run c calls) ∧
    ((Breaker.init.run c calls).state = .Closed → ∀ x,
      ((Breaker.init.run c calls).step c x).state ≠ .Closed ↔
        (∃ t, x = .recordFailure t) ∧ (streak (calls ++ [x]) : Int) = c.failureThreshold) ∧
    ((Breaker.init.run c calls).state = .Open → ∃ t, (Breaker.init.run c calls).lastFailureTime = some t ∧
      ∀ now : ℚ, (c.timeoutSeconds : ℚ) ≤ now - t →
        Breaker.canExecute c now (Breaker.init.run c calls) =
          (true, { Breaker.init.run c calls with state := .HalfOpen, failureCount := 0, successCount := 0 }))) ∧
    ∀ (db : Db) (ops : List Op),
      Breaker.Healthy bankApi ((Deployment.init db).run ops).sys.bankStreak ((Deployment.init db).run ops).breaker :=
  ⟨breaker_calls_invariant c hf hs calls, fun _ ops => run_healthy (Breaker.Healthy.init (by decide)) ops⟩

theorem breaker_invariant_bank_api :
    1 ≤ bankApi.failureThreshold ∧ 1 ≤ bankApi.successThreshold ∧
    (Breaker.Healthy bankApi (streak fiveTimeouts) (Breaker.init.run bankApi fiveTimeouts) ∧
    ((Breaker.init.run bankApi fiveTimeouts).state = .Closed → ∀ x,
      ((Breaker.init.run bankApi fiveTimeouts).step bankApi x).state ≠ .Closed ↔
        (∃ t, x = .recordFailure t) ∧ (streak (fiveTimeouts ++ [x]) : Int) = bankApi.failureThreshold) ∧
    ((Breaker.init.run bankApi fiveTimeouts).state = .Open →
      ∃ t, (Breaker.init.run bankApi fiveTimeouts).lastFailureTime = some t ∧
      ∀ now : ℚ, (bankApi.timeoutSeconds : ℚ) ≤ now - t →
        Breaker.canExecute bankApi now (Breaker.init.run bankApi fiveTimeouts) =
          (true, { Breaker.init.run bankApi fiveTimeouts with
            state := .HalfOpen, failureCount := 0, successCount := 0 }))) ∧
    ∀ (db : Db) (ops : List Op),
      Breaker.Healthy bankApi ((Deployment.init db).run ops).sys.bankStreak ((Deployment.init db).run ops).breaker :=
  ⟨by decide, by decide, breaker_invariant bankApi (by decide) (by decide) fiveTimeouts⟩

-- `task_instance.get_db()` raises: the database refuses connections.
def sessionDown : Input :=
  ⟨.clean, some ⟨.DatabaseError, "could not connect to server: Connection refused"⟩, .response okResponse⟩

-- An execution of message 0 whose `get_db()` raises, and Celery settling it.
def failedExecution : List Op :=
  [.worker (.deliver 0 false), .advance 0 sessionDown 0 0 (.success "1"), .worker (.settle 0)]

-- An execution of message 0 to SUCCESS, the bank answering at once.
def completedExecution : List Op :=
  [.worker (.deliver 0 false), .advance 0 okInput 0 0 (.success "1"), .advance 0 okInput 0 0 (.success "1"),
    .advance 0 okInput 0 0 (.success "1"), .worker (.settle 0)]

-- The keyword arguments `create_transaction_with_task` passes, as `json.dumps` writes them.
def depositKwargs : String :=
  "\x7b\x22transaction_id\x22: \x220\x22, \x22account_id\x22: \x220\x22, \x22amount\x22: \x2250.00\x22, " ++
    "\x22user_id\x22: \x220\x22\x7d"

-- A deposit of 50.00 whose four executions all find the database down: the fourth one's failure
-- sends the job to the DLQ, and `handle_failed_task` stores it.
def deadDeposit : List Op :=
  .worker (.submit .Deposit .clean 0 0 5000 "USD" "task-1") ::
    (failedExecution ++ failedExecution ++ failedExecution ++ failedExecution ++
      [.handle "task-1" depositKwargs])

-- Two calls of `replay_failed_task` on its row: both read it before either commits.
def racedReplays : List Op :=
  deadDeposit ++ [.dlq (.replay 0), .dlq (.replay 0), .dlq (.load 0), .dlq (.load 1),
    .dlq (.send 0 "task-a" none), .dlq (.send 1 "task-b" none), .dlq (.commit 0 100 none),
    .dlq (.commit 1 101 none)]

-- A replay whose commit raises after `send_task`, and the call that retries it.
def retriedReplay : List Op :=
  deadDeposit ++ [.dlq (.replay 0), .dlq (.load 0), .dlq (.send 0 "task-a" none),
    .dlq (.commit 0 100 (some "connection reset")), .dlq (.replay 0), .dlq (.load 1),
    .dlq (.send 1 "task-b" none), .dlq (.commit 1 101 none)]

-- Both runs put the job back on the main queue twice. In the race the second commit is refused,
-- as the row changed since that call read it: the row names the first new task only and the
-- second call answers an error, though its `send_task` went out; a worker then runs both tasks,
-- and the deposit is credited twice.
set_option maxRecDepth 8000 in
theorem replay_enqueued_twice :
    ((Deployment.init fundedDb).run racedReplays).sys.replayed = [0, 0] ∧
    ((Deployment.init fundedDb).run racedReplays).sys.queue =
      [(⟨.Deposit, 0, 0, 5000, 0⟩, 0), (⟨.Deposit, 0, 0, 5000, 0⟩, 0)] ∧
    (((Deployment.init fundedDb).run racedReplays).dlq.store.records.map fun r : FailedTask => r.replayNotes) =
      [some "Replayed to queue. New task ID: task-a"] ∧
    (((Deployment.init fundedDb).run racedReplays).dlq.calls.map fun c : ReplayCall => c.stage) =
      [.finished (.replayed 0 "task-a"), .finished (.error DeadLetters.serializationFailure)] ∧
    ((Deployment.init fundedDb).run (racedReplays ++ completedExecution ++ completedExecution)).sys.db.balanceOf 0 =
      20000 ∧
    ((Deployment.init fundedDb).run retriedReplay).sys.replayed = [0, 0] ∧
    (((Deployment.init fundedDb).run retriedReplay).dlq.calls.map fun c : ReplayCall => c.stage) =
      [.finished (.error "connection reset"), .finished (.replayed 0 "task-b")] := by
  decide

-- A deposit of 50.00 for a user with a webhook URL, executed to SUCCESS: its completion creates a
-- delivery row and calls `send_webhook_notification.delay`.
def hookedDeposit : List Op :=
  .worker (.submit .Deposit .clean 0 0 5000 "USD" "task-1") :: completedExecution

-- After five 503s the row is FAILED, yet Celery runs a sixth execution, which posts again and
-- makes a sixth attempt against `max_attempts = 5`; a 429 is not retried at all. So too for the
-- delivery row a completed deposit of the deployment creates.
set_option maxRecDepth 8000 in
theorem sixth_attempt_after_failed :
    (deliver 0 (some (.created hookDelivery)) outageThenOk).posted =
      [.Pending, .Pending, .Pending, .Pending, .Pending, .Failed] ∧
    ((deliver 0 (some (.created hookDelivery)) outageThenOk).row.map fun r =>
      (r.attemptCount, r.maxAttempts, r.status)) = some (6, 5, .Success) ∧
    ((deliver 0 (some (.created hookDelivery)) [.response 429 "Too Many Requests" ""]).row.map fun r =>
      (r.attemptCount, r.status)) = some (1, .Failed) ∧
    (((Deployment.init hookedDb).run (hookedDeposit ++ [.worker (.hook 0 outageThenOk)])).sys.db.deliveries.map
      fun r => (r.attemptCount, r.maxAttempts, r.status)) = [(6, 5, .Success)] ∧
    (((Deployment.init hookedDb).run
      (hookedDeposit ++ [.worker (.hook 0 [.response 429 "Too Many Requests" ""])])).sys.db.deliveries.map
        fun r => (r.attemptCount, r.status)) = [(1, .Failed)] := by
  decide

end PaymentGateway.Worker
