import Mathlib.Data.List.Nodup
import Mathlib.Data.List.Infix

namespace PaymentGateway.Worker

-- What `DLQTask.on_failure` publishes and `handle_failed_task` reads back.
structure DlqMessage where
  taskId : String
  taskName : String
  args : String
  kwargs : String
  deriving DecidableEq, Repr

-- A `failed_tasks` row: the job to replay and the replay columns; `replayedAt` in seconds.
structure FailedTask where
  taskId : String
  taskName : String
  args : String
  kwargs : String
  replayedAt : Option Int
  replayStatus : Option String
  replayNotes : Option String
  deriving DecidableEq, Repr

-- A task `send_task` puts on the `transactions` queue.
structure QueuedTask where
  taskName : String
  args : String
  kwargs : String
  deriving DecidableEq, Repr

-- The `failed_tasks` table (a row's id is its position), the main queue, and a history
-- variable: the record each `send_task` of a replay sent.
structure DeadLetters where
  records : List FailedTask
  queue : List QueuedTask
  sends : List Nat
  deriving DecidableEq, Repr

inductive HandleResult
  | duplicate (taskId : String)
  | stored (taskId : String) (recordId : Nat)
  deriving DecidableEq, Repr

-- `handle_failed_task`: a message whose task already has a row is ignored. Two handlers that
-- both find no row cannot both insert one: the unique index on `task_id` refuses the second
-- commit, so the step is the same as if the query and the insert were one.
def handleFailedTask (m : DlqMessage) (records : List FailedTask) : List FailedTask × HandleResult :=
  if records.any (·.taskId == m.taskId) then (records, .duplicate m.taskId)
  else (records ++ [⟨m.taskId, m.taskName, m.args, m.kwargs, none, none, none⟩],
    .stored m.taskId records.length)

inductive ReplayResult
  | error (message : String)
  | alreadyReplayed (replayedAt : Int) (replayStatus : String)
  | replayed (recordId : Nat) (newTaskId : String)
  deriving DecidableEq, Repr

-- The replay columns `replay_failed_task` sets on the row it read.
def FailedTask.markReplayed (r : FailedTask) (newTaskId : String) (now : Int) : FailedTask :=
  { r with
    replayedAt := some now, replayStatus := some "QUEUED",
    replayNotes := some ("Replayed to queue. New task ID: " ++ newTaskId) }

namespace DeadLetters

-- The query of `replay_failed_task` and its checks, on the row as committed now.
def loadRecord (s : DeadLetters) (recordId : Nat) : Except ReplayResult FailedTask :=
  match s.records[recordId]? with
  | none => .error (.error "DLQ record not found")
  | some r =>
    match r.replayedAt with
    | some t => .error (.alreadyReplayed t (r.replayStatus.getD "UNKNOWN"))
    | none => .ok r

-- `celery_app.send_task(...)` to the main queue; `raises` is the broker's error, if any.
def sendTask (s : DeadLetters) (recordId : Nat) (r : FailedTask) (raises : Option String) :
    Except ReplayResult DeadLetters :=
  match raises with
  | some e => .error (.error e)
  | none => .ok { s with queue := s.queue ++ [⟨r.taskName, r.args, r.kwargs⟩], sends := s.sends ++ [recordId] }

-- What `str(e)` of the driver's error starts with when PostgreSQL refuses an UPDATE at
-- REPEATABLE READ (session.py): the row was changed by a transaction that committed after
-- this one read it.
def serializationFailure : String :=
  "(psycopg2.errors.SerializationFailure) could not serialize access due to concurrent update"

-- Marking the row and `db.commit()`, in the transaction that loaded `loaded`: the UPDATE of a
-- row another call has committed since raises, and so may the commit; either is rolled back.
def commitReplay (s : DeadLetters) (recordId : Nat) (loaded : FailedTask) (newTaskId : String)
    (now : Int) (raises : Option String) : DeadLetters × ReplayResult :=
  if s.records[recordId]? ≠ some loaded then (s, .error serializationFailure)
  else
    match raises with
    | some e => (s, .error e)
    | none =>
      ({ s with records := s.records.set recordId (loaded.markReplayed newTaskId now) },
        .replayed recordId newTaskId)

end DeadLetters

-- Calls of `replay_failed_task` running at once: each is before its query, past its checks
-- with the row it read, past `send_task` (its transaction still holding that read), or finished.
inductive ReplayStage
  | start
  | loaded (r : FailedTask)
  | sent (r : FailedTask) (newTaskId : String)
  | finished (result : ReplayResult)
  deriving DecidableEq, Repr

structure ReplayCall where
  recordId : Nat
  stage : ReplayStage
  deriving DecidableEq, Repr

structure DlqSystem where
  store : DeadLetters
  calls : List ReplayCall
  deriving DecidableEq, Repr

-- `failed`: a DLQ message is handled. `replay`: a call of `replay_failed_task` begins; `load`,
-- `send` and `commit` are its three steps.
inductive DlqAction
  | failed (m : DlqMessage)
  | replay (recordId : Nat)
  | load (call : Nat)
  | send (call : Nat) (newTaskId : String) (raises : Option String)
  | commit (call : Nat) (now : Int) (raises : Option String)
  deriving DecidableEq, Repr

namespace DlqSystem

def init : DlqSystem := ⟨⟨[], [], []⟩, []⟩

def setStage (s : DlqSystem) (i : Nat) (c : ReplayCall) (stage : ReplayStage) : List ReplayCall :=
  s.calls.set i { c with stage }

def step (s : DlqSystem) : DlqAction → DlqSystem
  | .failed m => { s with store := { s.store with records := (handleFailedTask m s.store.records).1 } }
  | .replay recordId => { s with calls := s.calls ++ [⟨recordId, .start⟩] }
  | .load i =>
    match s.calls[i]? with
    | some c =>
      match c.stage with
      | .start =>
        match s.store.loadRecord c.recordId with
        | .error res => { s with calls := s.setStage i c (.finished res) }
        | .ok r => { s with calls := s.setStage i c (.loaded r) }
      | _ => s
    | none => s
  | .send i newTaskId raises =>
    match s.calls[i]? with
    | some c =>
      match c.stage with
      | .loaded r =>
        match s.store.sendTask c.recordId r raises with
        | .error res => { s with calls := s.setStage i c (.finished res) }
        | .ok store => ⟨store, s.setStage i c (.sent r newTaskId)⟩
      | _ => s
    | none => s
  | .commit i now raises =>
    match s.calls[i]? with
    | some c =>
      match c.stage with
      | .sent r newTaskId =>
        let done := s.store.commitReplay c.recordId r newTaskId now raises
        ⟨done.1, s.setStage i c (.finished done.2)⟩
      | _ => s
    | none => s

def run (s : DlqSystem) : List DlqAction → DlqSystem
  | [] => s
  | a :: rest => (s.step a).run rest

end DlqSystem

namespace DeadLetters

theorem loadRecord_ok {s : DeadLetters} {recordId : Nat} {r : FailedTask} (h : s.loadRecord recordId = .ok r) :
    s.records[recordId]? = some r ∧ r.replayedAt = none := by
  unfold loadRecord at h
  split at h
  · cases h
  · split at h
    · cases h
    · cases h; exact ⟨‹_›, ‹_›⟩

theorem sendTask_ok {s s' : DeadLetters} {recordId : Nat} {r : FailedTask} {raises : Option String}
    (h : s.sendTask recordId r raises = .ok s') :
    s'.records = s.records ∧ s'.sends = s.sends ++ [recordId] := by
  unfold sendTask at h
  split at h
  · cases h
  · cases h; exact ⟨rfl, rfl⟩

-- A commit in a transaction whose row no other call has committed since: the commit's own
-- outcome.
theorem commitReplay_of_read {s : DeadLetters} {recordId : Nat} {loaded : FailedTask}
    (h : s.records[recordId]? = some loaded) (newTaskId : String) (now : Int) (raises : Option String) :
    s.commitReplay recordId loaded newTaskId now raises =
      match raises with
      | some e => (s, .error e)
      | none => ({ s with records := s.records.set recordId (loaded.markReplayed newTaskId now) },
          .replayed recordId newTaskId) := by
  simp only [commitReplay, h, ne_eq, not_true_eq_false, if_false]

-- A commit leaves the table as it was, or marks the row, which was still the version read.
theorem commitReplay_cases (s : DeadLetters) (recordId : Nat) (loaded : FailedTask) (newTaskId : String)
    (now : Int) (raises : Option String) :
    (s.commitReplay recordId loaded newTaskId now raises).1 = s ∨
    s.records[recordId]? = some loaded ∧
      (s.commitReplay recordId loaded newTaskId now raises).1 =
        { s with records := s.records.set recordId (loaded.markReplayed newTaskId now) } := by
  by_cases h : s.records[recordId]? = some loaded
  · rw [commitReplay_of_read h]
    cases raises
    exacts [.inr ⟨h, rfl⟩, .inl rfl]
  · simp [commitReplay, h]

end DeadLetters

open DeadLetters

namespace DeadLetters

-- A row whose `replayed_at` is set.
def marked (s : DeadLetters) (recordId : Nat) : Bool := (s.records[recordId]?.bind (·.replayedAt)).isSome

theorem handleFailedTask_nodup (m : DlqMessage) {records : List FailedTask}
    (h : (records.map (·.taskId)).Nodup) : ((handleFailedTask m records).1.map (·.taskId)).Nodup := by
  unfold handleFailedTask
  split
  · exact h
  · rename_i hany
    simp only [List.any_eq_true, beq_iff_eq, not_exists, not_and] at hany
    rw [List.map_append, List.nodup_append]
    exact ⟨h, List.nodup_singleton _, by simpa [List.disjoint_singleton] using hany⟩

theorem handleFailedTask_extends (m : DlqMessage) (records : List FailedTask) :
    records <+: (handleFailedTask m records).1 := by
  unfold handleFailedTask
  split
  · exact List.prefix_refl _
  · exact List.prefix_append _ _

-- A commit changes the replay columns of one row and nothing else.
theorem commitReplay_taskIds (s : DeadLetters) (recordId : Nat) (loaded : FailedTask) (newTaskId : String)
    (now : Int) (raises : Option String) :
    (s.commitReplay recordId loaded newTaskId now raises).1.records.map (·.taskId) =
      s.records.map (·.taskId) := by
  rcases commitReplay_cases s recordId loaded newTaskId now raises with h | ⟨hcur, h⟩ <;> rw [h]
  have hlt := (List.getElem?_eq_some_iff.mp hcur).1
  apply List.ext_getElem?
  intro n
  simp only [List.getElem?_map, List.getElem?_set]
  split_ifs <;> simp_all [FailedTask.markReplayed]

theorem commitReplay_marked {s : DeadLetters} {recordId : Nat} (loaded : FailedTask) (newTaskId : String)
    (now : Int) (raises : Option String) {rid : Nat} (h : s.marked rid) :
    (s.commitReplay recordId loaded newTaskId now raises).1.marked rid := by
  rcases commitReplay_cases s recordId loaded newTaskId now raises with he | ⟨hcur, he⟩ <;> rw [he]
  · exact h
  have hlt := (List.getElem?_eq_some_iff.mp hcur).1
  simp only [marked, List.getElem?_set] at h ⊢
  split_ifs <;> simp_all [FailedTask.markReplayed]

theorem commitReplay_taskNames (s : DeadLetters) (recordId : Nat) (loaded : FailedTask) (newTaskId : String)
    (now : Int) (raises : Option String) :
    (s.commitReplay recordId loaded newTaskId now raises).1.records.map (·.taskName) =
      s.records.map (·.taskName) := by
  rcases commitReplay_cases s recordId loaded newTaskId now raises with h | ⟨hcur, h⟩ <;> rw [h]
  have hlt := (List.getElem?_eq_some_iff.mp hcur).1
  apply List.ext_getElem?
  intro n
  simp only [List.getElem?_map, List.getElem?_set]
  split_ifs <;> simp_all [FailedTask.markReplayed]

end DeadLetters

-- `handle_failed_task` ignores a message whose task has a row, or adds the row.
theorem handleFailedTask_cases (m : DlqMessage) (records : List FailedTask) :
    (∃ t, (handleFailedTask m records).2 = .duplicate t ∧ (handleFailedTask m records).1 = records) ∨
    ∃ t k, (handleFailedTask m records).2 = .stored t k ∧
      (handleFailedTask m records).1 = records ++ [⟨m.taskId, m.taskName, m.args, m.kwargs, none, none, none⟩] := by
  unfold handleFailedTask
  split
  exacts [.inl ⟨_, rfl, rfl⟩, .inr ⟨_, _, rfl, rfl⟩]

namespace DlqSystem

-- What a step can do to the store: nothing, `handle_failed_task` of a message, a `send_task` that
-- went out, or a commit of a replay.
theorem step_store (s : DlqSystem) (a : DlqAction) :
    (s.step a).store = s.store ∨
    (∃ m, a = .failed m ∧ (s.step a).store.records = (handleFailedTask m s.store.records).1 ∧
      (s.step a).store.sends = s.store.sends) ∨
    (∃ recordId r raises, s.store.sendTask recordId r raises = .ok (s.step a).store) ∨
    ∃ recordId loaded newTaskId now raises,
      (s.step a).store = (s.store.commitReplay recordId loaded newTaskId now raises).1 := by
  cases a <;> rw [step] <;> repeat' split
  all_goals first
    | exact .inl rfl
    | exact .inr (.inl ⟨_, rfl, rfl, rfl⟩)
    | exact .inr (.inr (.inl ⟨_, _, _, ‹_›⟩))
    | exact .inr (.inr (.inr ⟨_, _, _, _, _, rfl⟩))

-- What a step can do to the table: nothing, `handle_failed_task`, or a commit of a replay.
theorem step_records (s : DlqSystem) (a : DlqAction) :
    (s.step a).store.records = s.store.records ∨
    (∃ m, (s.step a).store.records = (handleFailedTask m s.store.records).1) ∨
    ∃ recordId loaded newTaskId now raises,
      (s.step a).store = (s.store.commitReplay recordId loaded newTaskId now raises).1 := by
  rcases step_store s a with h | ⟨m, -, h, -⟩ | ⟨_, _, _, h⟩ | h
  exacts [.inl (by rw [h]), .inr (.inl ⟨m, h⟩), .inl (sendTask_ok h).1, .inr (.inr h)]

-- A step only adds sends; one that handles no message keeps every row's task.
theorem step_sends_prefix (s : DlqSystem) (a : DlqAction) : s.store.sends <+: (s.step a).store.sends := by
  rcases step_store s a with h | ⟨-, -, -, h⟩ | ⟨_, _, _, h⟩ | ⟨recordId, loaded, newTaskId, now, raises, h⟩
  · rw [h]
  · rw [h]
  · rw [(sendTask_ok h).2]; exact List.prefix_append _ _
  · rcases s.store.commitReplay_cases recordId loaded newTaskId now raises with he | ⟨-, he⟩ <;> rw [h, he]

theorem step_taskNames (s : DlqSystem) {a : DlqAction} (ha : ∀ m, a ≠ .failed m) :
    (s.step a).store.records.map (·.taskName) = s.store.records.map (·.taskName) := by
  rcases step_store s a with h | ⟨m, rfl, -⟩ | ⟨_, _, _, h⟩ | ⟨_, _, _, _, _, h⟩
  · rw [h]
  · exact absurd rfl (ha m)
  · rw [(sendTask_ok h).1]
  · rw [h, DeadLetters.commitReplay_taskNames]

-- Over any interleaving of handlers and replays: one row per failed task, and a row once marked
-- replayed stays marked.
theorem run_records (s : DlqSystem) (actions : List DlqAction)
    (h : (s.store.records.map (·.taskId)).Nodup) (rid : Nat) (hm : s.store.marked rid) :
    ((s.run actions).store.records.map (·.taskId)).Nodup ∧ (s.run actions).store.marked rid := by
  induction actions generalizing s with
  | nil => exact ⟨h, hm⟩
  | cons a rest ih =>
    apply ih
    · rcases step_records s a with he | ⟨m, he⟩ | ⟨recordId, loaded, newTaskId, now, raises, he⟩
      · rwa [he]
      · rw [he]; exact handleFailedTask_nodup m h
      · rw [he, commitReplay_taskIds]; exact h
    · rcases step_records s a with he | ⟨m, he⟩ | ⟨recordId, loaded, newTaskId, now, raises, he⟩
      · simpa only [DeadLetters.marked, he] using hm
      · simp only [DeadLetters.marked, he] at hm ⊢
        obtain ⟨r, hr⟩ := Option.isSome_iff_exists.mp hm
        obtain ⟨t, ht, -⟩ := Option.bind_eq_some.mp hr
        obtain ⟨rest, hrest⟩ := handleFailedTask_extends m s.store.records
        rw [← hrest, List.getElem?_append_left (List.getElem?_eq_some_iff.mp ht).1]
        exact hm
      · rw [he]; exact DeadLetters.commitReplay_marked loaded newTaskId now raises hm

-- A row replayed already; the same failed task's message again, and a replay call that reads it.
def replayedRow : DlqSystem :=
  ⟨⟨[⟨"c0ffee", "process_deposit", "[]", "[]", some 100, some "QUEUED",
    some "Replayed to queue. New task ID: task-a"⟩], [], [0]⟩, []⟩

def againAndReplay : List DlqAction :=
  [.failed ⟨"c0ffee", "process_deposit", "[]", "[]"⟩, .replay 0, .load 0]

theorem run_records_replayed :
    (replayedRow.store.records.map (·.taskId)).Nodup ∧ replayedRow.store.marked 0 ∧
    ((replayedRow.run againAndReplay).store.records.map (·.taskId)).Nodup ∧
      (replayedRow.run againAndReplay).store.marked 0 :=
  have hn : (replayedRow.store.records.map (·.taskId)).Nodup := by decide
  have hm : replayedRow.store.marked 0 := rfl
  ⟨hn, hm, run_records replayedRow againAndReplay hn 0 hm⟩

end DlqSystem

-- A call holding a row it read: past its checks, or past `send_task`.
def ReplayStage.holdsRow : ReplayStage → Bool
  | .loaded _ | .sent _ _ => true
  | _ => false

namespace DlqSystem

-- Every call holding a row, and every `send_task`, is of a row of the table.
structure Sound (s : DlqSystem) : Prop where
  calls : ∀ c ∈ s.calls, c.stage.holdsRow → c.recordId < s.store.records.length
  sends : ∀ rid ∈ s.store.sends, rid < s.store.records.length

theorem Sound.init : init.Sound := ⟨fun _ h => (by cases h), fun _ h => (by cases h)⟩

section Sound

variable {s : DlqSystem}

theorem loadRecord_lt {recordId : Nat} {r : FailedTask} (h : s.store.loadRecord recordId = .ok r) :
    recordId < s.store.records.length :=
  (List.getElem?_eq_some_iff.mp (loadRecord_ok h).1).1

-- A call moved to a stage that holds no row, or to one holding a row of the table.
theorem Sound.setStage (h : s.Sound) (i : Nat) (c : ReplayCall) (stage : ReplayStage) (hs : stage.holdsRow → c.recordId < s.store.records.length) :
    ∀ c' ∈ s.setStage i c stage, c'.stage.holdsRow → c'.recordId < s.store.records.length := by
  intro c' hm hh
  rcases List.mem_or_eq_of_mem_set hm with hm | rfl
  exacts [h.calls c' hm hh, hs hh]

-- A store whose table kept its rows and grew no send.
theorem Sound.of_store (h : s.Sound) {s' : DlqSystem} (hl : s.store.records.length ≤ s'.store.records.length)
    (hsends : s'.store.sends = s.store.sends)
    (hcalls : ∀ c ∈ s'.calls, c.stage.holdsRow → c.recordId < s.store.records.length) : s'.Sound :=
  ⟨fun c hm hh => lt_of_lt_of_le (hcalls c hm hh) hl,
    fun rid hm => lt_of_lt_of_le (h.sends rid (hsends ▸ hm)) hl⟩

theorem Sound.step (h : s.Sound) (a : DlqAction) : (s.step a).Sound := by
  cases a with
  | failed m =>
    exact h.of_store (handleFailedTask_extends m _).length_le rfl h.calls
  | replay rid =>
    refine h.of_store le_rfl rfl fun c hm hh => ?_
    rcases List.mem_append.mp hm with hm | hm
    · exact h.calls c hm hh
    · rw [List.mem_singleton] at hm; subst hm; cases hh
  | load i =>
    simp only [DlqSystem.step]
    split
    · rename_i c hc
      split
      · split
        · exact h.of_store le_rfl rfl (h.setStage i c _ fun hh => by cases hh)
        · exact h.of_store le_rfl rfl (h.setStage i c _ fun _ => loadRecord_lt ‹_›)
      all_goals exact h
    · exact h
  | send i newTaskId raises =>
    simp only [DlqSystem.step]
    split
    · rename_i c hc
      split
      · rename_i r hr
        have hlt := h.calls c (List.getElem?_mem hc) (by rw [hr]; rfl)
        split
        · exact h.of_store le_rfl rfl (h.setStage i c _ fun hh => by cases hh)
        · rename_i store hsend
          obtain ⟨hrec, hsends⟩ := sendTask_ok hsend
          refine ⟨fun c' hm hh => hrec ▸ h.setStage i c _ (fun _ => hlt) c' hm hh, fun rid hm => ?_⟩
          rw [hsends, List.mem_append, List.mem_singleton] at hm
          rw [hrec]
          rcases hm with hm | rfl
          exacts [h.sends rid hm, hlt]
      all_goals exact h
    · exact h
  | commit i now raises =>
    simp only [DlqSystem.step]
    split
    · rename_i c hc
      split
      · rename_i r newTaskId _
        have hlen := congrArg List.length
          (s.store.commitReplay_taskIds c.recordId r newTaskId now raises)
        simp only [List.length_map] at hlen
        rcases s.store.commitReplay_cases c.recordId r newTaskId now raises with he | ⟨-, he⟩ <;>
          exact h.of_store hlen.ge (by rw [he]) (h.setStage i c _ fun hh => by cases hh)
      all_goals exact h
    · exact h

end Sound

theorem run_append (s : DlqSystem) (as bs : List DlqAction) : s.run (as ++ bs) = (s.run as).run bs := by
  induction as generalizing s with
  | nil => rfl
  | cons a rest ih => exact ih _

end DlqSystem

end PaymentGateway.Worker
