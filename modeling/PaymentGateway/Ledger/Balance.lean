import PaymentGateway.Ledger.Effects
import Mathlib.Algebra.Order.BigOperators.Group.List
import Mathlib.Data.List.Perm.Subperm
import Mathlib.Algebra.Ring.Int.Defs

namespace PaymentGateway.Ledger

def signedAmount : TransactionType → Int → Int
  | .Deposit, amount => amount
  | .Withdrawal, amount => -amount

-- What a committed completion moved on an account, read from the rows of `db`.
def completionDelta (db : Db) (accountId : Nat) : Commit → Int
  | .completed tid service =>
    match db.transactions tid with
    | some t => if t.accountId = accountId then signedAmount service t.amount else 0
    | none => 0
  | _ => 0

def ledgerDelta (db : Db) (accountId : Nat) (entries : List Commit) : Int :=
  (entries.map (completionDelta db accountId)).sum

@[simp] theorem ledgerDelta_nil (db : Db) (a : Nat) : ledgerDelta db a [] = 0 := rfl

@[simp] theorem ledgerDelta_append (db : Db) (a : Nat) (xs ys : List Commit) :
    ledgerDelta db a (xs ++ ys) = ledgerDelta db a xs + ledgerDelta db a ys := by
  induction xs with
  | nil => simp [ledgerDelta]
  | cons x xs ih =>
    simp only [ledgerDelta, List.cons_append, List.map_cons, List.sum_cons] at ih ⊢
    rw [ih]; omega

theorem ledgerDelta_eq_zero {db : Db} {a : Nat} {new : List Commit}
    (hn : ∀ tid k, Commit.completed tid k ∉ new) : ledgerDelta db a new = 0 := by
  induction new with
  | nil => rfl
  | cons e new ih =>
    have h0 : completionDelta db a e = 0 := by
      cases e with
      | completed tid k => exact absurd (List.mem_cons_self _ _) (hn tid k)
      | _ => rfl
    have ih := ih fun tid k h => hn tid k (List.mem_cons_of_mem _ h)
    simp only [ledgerDelta, List.map_cons, List.sum_cons, h0] at ih ⊢
    omega

theorem moveBalance_ok {service : TransactionType} {acc moved : Account} {amount : Int}
    (h : moveBalance service acc amount = .ok moved) :
    moved.balance = acc.balance + signedAmount service amount ∧ moved.userId = acc.userId ∧
      0 < amount ∧ (service = .Withdrawal → amount ≤ acc.balance) := by
  cases service <;> simp only [moveBalance, addBalance, subtractBalance] at h <;>
    split_ifs at h <;> cases h <;> simp [signedAmount] <;> omega

namespace Db

-- Every balance is non-negative: the `balance_non_negative` check constraint.
def Solvent (db : Db) : Prop := ∀ id account, db.accounts id = some account → 0 ≤ account.balance

-- No row sits at or above the next fresh id.
def Fresh (db : Db) : Prop := ∀ id, db.nextId ≤ id → db.transactions id = none

-- What no service changes in a transaction row: its account, its type and its amount.
def SameRow (t t' : Transaction) : Prop :=
  t'.accountId = t.accountId ∧ t'.transactionType = t.transactionType ∧ t'.amount = t.amount

-- Every row of `db` is still in `db'`, with the same account, type and amount.
def Extends (db db' : Db) : Prop :=
  ∀ id t, db.transactions id = some t → ∃ t', db'.transactions id = some t' ∧ SameRow t t'

-- One step of the balance-ledger relation: the journal grows by `new`, and every balance
-- moves by what the completions in `new` moved.
def LedgerStep (db db' : Db) : Prop :=
  ∃ new, db'.journal = db.journal ++ new ∧
    (∀ tid k, Commit.completed tid k ∈ new → ∃ t, db'.transactions tid = some t ∧ 0 < t.amount) ∧
    ∀ a, db'.balanceOf a = db.balanceOf a + ledgerDelta db' a new

variable {db db' db'' : Db}

@[simp] theorem balanceOf_setAccount (id a : Nat) (acc : Account) :
    (db.setAccount id acc).balanceOf a = if a = id then acc.balance else db.balanceOf a := by
  by_cases h : a = id <;> simp [balanceOf, Function.update_apply, h]

@[simp] theorem balanceOf_setTransaction (tid a : Nat) (t : Transaction) :
    (db.setTransaction tid t).balanceOf a = db.balanceOf a := rfl

@[simp] theorem balanceOf_record (e : Commit) (a : Nat) : (db.record e).balanceOf a = db.balanceOf a :=
  rfl

theorem ledgerDelta_completed {tid : Nat} {t : Transaction} (h : db.transactions tid = some t)
    (a : Nat) (k : TransactionType) :
    ledgerDelta db a [.completed tid k] = if t.accountId = a then signedAmount k t.amount else 0 := by
  simp [ledgerDelta, completionDelta, h]

theorem Extends.refl (db : Db) : Extends db db := fun _ t h => ⟨t, h, rfl, rfl, rfl⟩

theorem Extends.trans (h₁ : Extends db db') (h₂ : Extends db' db'') : Extends db db'' := by
  intro id t ht
  obtain ⟨t₁, h₁, a₁, k₁, m₁⟩ := h₁ id t ht
  obtain ⟨t₂, h₂, a₂, k₂, m₂⟩ := h₂ id t₁ h₁
  exact ⟨t₂, h₂, a₂.trans a₁, k₂.trans k₁, m₂.trans m₁⟩

theorem Extends.of_transactions (h : db'.transactions = db.transactions) : Extends db db' :=
  fun _ t ht => ⟨t, h ▸ ht, rfl, rfl, rfl⟩

theorem Extends.setTransaction {id : Nat} {t t' : Transaction} (ht : db.transactions id = some t)
    (hs : SameRow t t') : Extends db (db.setTransaction id t') := by
  intro i u hu
  by_cases hi : i = id
  · subst hi; rw [ht] at hu; cases hu; exact ⟨t', by simp, hs⟩
  · exact ⟨u, by simp [Function.update_apply, hi, hu], rfl, rfl, rfl⟩

-- An insert at the fresh id leaves every existing row in place.
theorem Fresh.insert_apply (hf : db.Fresh) (t : Transaction) {i : Nat} {u : Transaction}
    (hu : db.transactions i = some u) : (db.insert t).transactions i = some u := by
  have hi : i ≠ db.nextId := fun h => by simp [hf i (by omega)] at hu
  simp [Function.update_apply, hi, hu]

theorem Extends.insert (hf : db.Fresh) (t : Transaction) : Extends db (db.insert t) :=
  fun _ u hu => ⟨u, hf.insert_apply t hu, rfl, rfl, rfl⟩

theorem Fresh.setTransaction (hf : db.Fresh) {tid : Nat} {t t' : Transaction}
    (ht : db.transactions tid = some t) : (db.setTransaction tid t').Fresh := by
  intro i hi
  simp only [setTransaction_nextId] at hi
  have : i ≠ tid := fun h => by simp [← h, hf i hi] at ht
  simp [Function.update_apply, this, hf i hi]

theorem Fresh.insert (hf : db.Fresh) (t : Transaction) : (db.insert t).Fresh := by
  intro i hi
  simp only [insert_nextId] at hi
  simp [Function.update_apply, show i ≠ db.nextId by omega, hf i (by omega)]

theorem Fresh.record (hf : db.Fresh) (e : Commit) : (db.record e).Fresh := hf

theorem Fresh.of_le (hf : db.Fresh) (hn : db.nextId ≤ db'.nextId)
    (ht : db'.transactions = db.transactions) : db'.Fresh :=
  fun i hi => ht ▸ hf i (by omega)

theorem LedgerStep.refl (db : Db) : LedgerStep db db := ⟨[], by simp, by simp, by simp⟩

-- A step that moves no balance and commits no completion.
theorem LedgerStep.of_frame (new : List Commit) (hj : db'.journal = db.journal ++ new)
    (ha : db'.accounts = db.accounts) (hn : ∀ tid k, Commit.completed tid k ∉ new) :
    LedgerStep db db' := by
  refine ⟨new, hj, fun tid k h => absurd h (hn tid k), fun a => ?_⟩
  simp [balanceOf, ha, ledgerDelta_eq_zero hn]

theorem completionDelta_extends {e : Commit} (hx : Extends db db')
    (he : ∀ tid k, e = .completed tid k → db.transactions tid ≠ none) (a : Nat) :
    completionDelta db' a e = completionDelta db a e := by
  cases e with
  | completed tid k =>
    obtain ⟨t, ht⟩ := Option.ne_none_iff_exists'.mp (he tid k rfl)
    obtain ⟨t', ht', hacc, -, hm⟩ := hx tid t ht
    simp [completionDelta, ht, ht', hacc, hm]
  | _ => rfl

theorem LedgerStep.trans (h₁ : LedgerStep db db') (h₂ : LedgerStep db' db'')
    (hx : Extends db' db'') : LedgerStep db db'' := by
  obtain ⟨n₁, j₁, c₁, b₁⟩ := h₁
  obtain ⟨n₂, j₂, c₂, b₂⟩ := h₂
  have hsame : ∀ a, ledgerDelta db'' a n₁ = ledgerDelta db' a n₁ := fun a => by
    unfold ledgerDelta
    congr 1
    refine List.map_congr_left fun e he => completionDelta_extends hx ?_ a
    rintro tid k rfl
    obtain ⟨t, ht, -⟩ := c₁ tid k he
    simp [ht]
  refine ⟨n₁ ++ n₂, by simp [j₁, j₂], fun tid k h => ?_, fun a => ?_⟩
  · rcases List.mem_append.mp h with h | h
    · obtain ⟨t, ht, hpos⟩ := c₁ tid k h
      obtain ⟨t', ht', -, -, hm⟩ := hx tid t ht
      exact ⟨t', ht', hm ▸ hpos⟩
    · exact c₂ tid k h
  · rw [b₂, b₁, ledgerDelta_append, hsame]; omega

theorem Solvent.of_accounts (hs : db.Solvent) (h : db'.accounts = db.accounts) : db'.Solvent :=
  fun i a ha => hs i a (h ▸ ha)

theorem Solvent.setAccount (hs : db.Solvent) (id : Nat) {acc : Account} (h : 0 ≤ acc.balance) :
    (db.setAccount id acc).Solvent := by
  intro i a ha
  by_cases hi : i = id
  · simp [hi] at ha; exact ha ▸ h
  · exact hs i a (by simpa [Function.update_apply, hi] using ha)

-- What every service call keeps: fresh ids, the rows, the balance-ledger relation and the
-- non-negative balances.
structure Preserves (db db' : Db) : Prop where
  fresh : db.Fresh → db'.Fresh
  rows : db.Fresh → Extends db db'
  ledger : db.Fresh → LedgerStep db db'
  solvent : db.Solvent → db'.Solvent

theorem Preserves.refl (db : Db) : Preserves db db :=
  ⟨id, fun _ => Extends.refl db, fun _ => LedgerStep.refl db, id⟩

theorem Preserves.trans (h₁ : Preserves db db') (h₂ : Preserves db' db'') : Preserves db db'' :=
  ⟨h₂.fresh ∘ h₁.fresh, fun hf => (h₁.rows hf).trans (h₂.rows (h₁.fresh hf)),
    fun hf => (h₁.ledger hf).trans (h₂.ledger (h₁.fresh hf)) (h₂.rows (h₁.fresh hf)),
    h₂.solvent ∘ h₁.solvent⟩

-- A commit that touches no balance, no row below the fresh ids and no completion.
theorem Preserves.of_frame (new : List Commit) (hj : db'.journal = db.journal ++ new)
    (ha : db'.accounts = db.accounts) (ht : db'.transactions = db.transactions)
    (hn : db.nextId ≤ db'.nextId) (hc : ∀ tid k, Commit.completed tid k ∉ new) :
    Preserves db db' :=
  ⟨fun hf => hf.of_le hn ht, fun _ => Extends.of_transactions ht,
    fun _ => LedgerStep.of_frame new hj ha hc, fun hs => hs.of_accounts ha⟩

-- A row update that commits no completion, as `update_status`, `mark_pending_review` and the
-- status commit of `fail_*` make.
theorem Preserves.setRecord {tid : Nat} {t : Transaction} (t' : Transaction)
    (ht : db.transactions tid = some t)
    (hs : SameRow t t') (e : Commit) (he : ∀ i k, e ≠ .completed i k) :
    Preserves db ((db.setTransaction tid t').record e) :=
  ⟨fun hf => (hf.setTransaction ht).record e, fun _ => Extends.setTransaction ht hs,
    fun _ => LedgerStep.of_frame [e] (by simp) (by simp) (by simpa [eq_comm] using he),
    fun hs => hs.of_accounts (by simp)⟩

theorem Preserves.insert (t : Transaction) (e : Commit) (he : ∀ i k, e ≠ .completed i k) :
    Preserves db ((db.insert t).record e) :=
  ⟨fun hf => (hf.insert t).record e, fun hf => Extends.insert hf t,
    fun _ => LedgerStep.of_frame [e] (by simp) (by simp) (by simpa [eq_comm] using he),
    fun hs => hs.of_accounts (by simp)⟩

end Db

section Calls

open Db

variable (f : Faults) (db : Db)

theorem trigger_preserves (tid : Nat) (t : Transaction) (a : Account) :
    Preserves db (triggerWebhookIfConfigured f tid t a db).1 := by
  rcases trigger_log f tid t a db with ⟨hj, -⟩ | ⟨url, hj, -⟩
  · exact .of_frame [] (by simp [hj]) (by simp) (by simp) (trigger_nextId ..) (by simp)
  · exact .of_frame _ hj (by simp) (by simp) (trigger_nextId ..) (by simp)

theorem complete_preserves (service : TransactionType) (redis : Bool) (tid : Nat) (b : String)
    (r : Option String) : Preserves db (complete service redis f tid b r db).1 := by
  rcases complete_cases f tid db service redis b r with h | ⟨t, acc, moved, ht, ha, hm, h⟩
  · rw [h]; exact .refl db
  rw [h]
  obtain ⟨hb, -, hpos, hw⟩ := moveBalance_ok hm
  have ht' : (db.setAccount t.accountId moved).transactions tid = some t := by simp [ht]
  have hrow : (((db.setAccount t.accountId moved).setTransaction tid (t.completedWith b r)).record
      (.completed tid service)).transactions tid = some (t.completedWith b r) := by simp
  have hstep : Preserves db (((db.setAccount t.accountId moved).setTransaction tid
      (t.completedWith b r)).record (.completed tid service)) := by
    refine ⟨fun hf => (Fresh.setTransaction hf ht').record (.completed tid service),
      fun _ => Extends.setTransaction ht' ⟨rfl, rfl, rfl⟩,
      fun _ => ⟨[.completed tid service], by simp, by simp [hrow, Transaction.completedWith, hpos],
        fun a => ?_⟩, fun hs => ?_⟩
    · rw [ledgerDelta_completed hrow]
      by_cases hat : a = t.accountId
      · subst hat; simp [Transaction.completedWith, hb, balanceOf, ha]
      · simp [hat, Transaction.completedWith, Ne.symm hat]
    · have h0 := hs _ _ ha
      have hmoved : 0 ≤ moved.balance := by
        cases service <;> simp [signedAmount] at hb hw <;> omega
      exact Solvent.of_accounts (hs.setAccount t.accountId hmoved) (by simp)
  exact hstep.trans (trigger_preserves ..)

theorem failTransaction_preserves (tid : Nat) (c m : String) (r : Option String) :
    Preserves db (failTransaction f tid c m r db).1 := by
  rcases failTransaction_cases f tid db c m r with h | ⟨t, ht, h | ⟨acc, h⟩⟩ <;> rw [h]
  · exact .refl db
  · exact .setRecord (t.failedWith c m r) ht ⟨rfl, rfl, rfl⟩ (.failed tid) (by simp)
  · exact (Preserves.setRecord (t.failedWith c m r) ht ⟨rfl, rfl, rfl⟩ (.failed tid)
      (by simp)).trans
      (trigger_preserves ..)

theorem perform_preserves : ∀ c, Preserves db (perform f c db).1
  | .createPendingDeposit a m c k t => by
    rcases createPendingDeposit_cases f db a m c k t with h | h <;> simp only [perform, h]
    exacts [.refl db, .insert _ (.inserted db.nextId) (by simp)]
  | .createPendingWithdrawal a m c k t => by
    rcases createPendingWithdrawal_cases f db a m c k t with h | h <;> simp only [perform, h]
    exacts [.refl db, .insert _ (.inserted db.nextId) (by simp)]
  | .updateStatus i s => by
    rcases updateStatus_cases f i db s with h | ⟨t, ht, h⟩ <;> simp only [perform, h]
    exacts [.refl db, .setRecord { t with status := s } ht ⟨rfl, rfl, rfl⟩ (.statusSet i s)
      (by simp)]
  | .markPendingReview i r b => by
    rcases markPendingReview_cases f i db r b with h | ⟨t, ht, h⟩ <;> simp only [perform, h]
    exacts [.refl db, .setRecord { t with
      status := .PendingReview, errorMessage := some r, bankResponse := b } ht ⟨rfl, rfl, rfl⟩
      (.reviewed i) (by simp)]
  | .completeDeposit r i b m => complete_preserves f db .Deposit r i b m
  | .completeWithdrawal r i b m => complete_preserves f db .Withdrawal r i b m
  | .failDeposit i c m b => failTransaction_preserves f db i c m b
  | .failWithdrawal i c m b => failTransaction_preserves f db i c m b

end Calls

theorem runCalls_preserves : ∀ (db : Db) calls, Db.Preserves db (runCalls db calls)
  | db, [] => .refl db
  | db, (c, f) :: rest => (perform_preserves f db c).trans (runCalls_preserves _ rest)

section Withdrawals

-- The amount a committed completion by `service` moved on an account.
def completedAmount (db : Db) (accountId : Nat) (service : TransactionType) : Commit → Int
  | .completed tid k =>
    if k = service then
      match db.transactions tid with
      | some t => if t.accountId = accountId then t.amount else 0
      | none => 0
    else 0
  | _ => 0

def completedTotal (db : Db) (accountId : Nat) (service : TransactionType)
    (entries : List Commit) : Int :=
  (entries.map (completedAmount db accountId service)).sum

def Db.amountOf (db : Db) (tid : Nat) : Int := ((db.transactions tid).map Transaction.amount).getD 0

def Db.accountOf (db : Db) (tid : Nat) : Option Nat := (db.transactions tid).map Transaction.accountId

theorem completionDelta_eq_sub (db : Db) (a : Nat) (e : Commit) :
    completionDelta db a e = completedAmount db a .Deposit e - completedAmount db a .Withdrawal e := by
  cases e with
  | completed tid k =>
    cases h : db.transactions tid with
    | none => cases k <;> simp [completionDelta, completedAmount, h]
    | some t =>
      by_cases ha : t.accountId = a <;> cases k <;>
        simp [completionDelta, completedAmount, signedAmount, h, ha]
  | _ => rfl

theorem ledgerDelta_eq_sub (db : Db) (a : Nat) (entries : List Commit) :
    ledgerDelta db a entries =
      completedTotal db a .Deposit entries - completedTotal db a .Withdrawal entries := by
  induction entries with
  | nil => rfl
  | cons e es ih =>
    simp only [ledgerDelta, completedTotal, List.map_cons, List.sum_cons] at ih ⊢
    rw [completionDelta_eq_sub, ih]; omega

theorem Db.Solvent.balanceOf_nonneg {db : Db} (hs : db.Solvent) (a : Nat) : 0 ≤ db.balanceOf a := by
  cases h : db.accounts a <;> simp [Db.balanceOf, h]
  exact hs a _ h

-- The withdrawal completions in `entries`, by transaction id, with their multiplicity.
def withdrawalIds : List Commit → List Nat
  | [] => []
  | .completed tid .Withdrawal :: rest => tid :: withdrawalIds rest
  | _ :: rest => withdrawalIds rest

theorem completedTotal_withdrawal (db : Db) (a : Nat) (entries : List Commit) :
    completedTotal db a .Withdrawal entries =
      ((withdrawalIds entries).map fun tid =>
        if db.accountOf tid = some a then db.amountOf tid else 0).sum := by
  induction entries with
  | nil => rfl
  | cons e es ih =>
    simp only [completedTotal, List.map_cons, List.sum_cons] at ih ⊢
    cases e with
    | completed tid k =>
      cases k <;> cases h : db.transactions tid <;>
        simp [withdrawalIds, completedAmount, h, Db.amountOf, Db.accountOf, ih]
    | _ => simp [withdrawalIds, completedAmount, ih]

-- Distinct withdrawals of an account that were each completed in `entries` total at most
-- what the completions in `entries` took from it.
theorem sum_le_completedTotal (db : Db) (a : Nat) (entries : List Commit) (S : List Nat)
    (hS : S.Nodup) (hpos : ∀ tid ∈ withdrawalIds entries, 0 ≤ db.amountOf tid)
    (hmem : ∀ tid ∈ S, Commit.completed tid .Withdrawal ∈ entries ∧ db.accountOf tid = some a) :
    (S.map db.amountOf).sum ≤ completedTotal db a .Withdrawal entries := by
  have hids : ∀ tid ∈ S, tid ∈ withdrawalIds entries := fun tid ht => by
    have := (hmem tid ht).1
    clear hmem hpos hS
    induction entries with
    | nil => cases this
    | cons e es ih =>
      rcases List.mem_cons.mp this with rfl | h
      · simp [withdrawalIds]
      · rcases e with _ | _ | _ | ⟨_, _ | _⟩ | _ | _ | _ <;> simp [withdrawalIds, ih h]
  obtain ⟨l, hp, hsub⟩ := hS.subperm hids
  let g := fun tid => if db.accountOf tid = some a then db.amountOf tid else 0
  have hS' : S.map db.amountOf = S.map g :=
    List.map_congr_left fun tid ht => by simp [g, (hmem tid ht).2]
  rw [completedTotal_withdrawal, hS', ← (hp.map g).sum_eq]
  refine (hsub.map g).sum_le_sum fun x hx => ?_
  obtain ⟨tid, ht, rfl⟩ := List.mem_map.mp hx
  by_cases h : db.accountOf tid = some a <;> simp [g, h, hpos tid ht]

theorem withdrawalIds_pos {db : Db} {new : List Commit}
    (h : ∀ tid k, Commit.completed tid k ∈ new → ∃ t, db.transactions tid = some t ∧ 0 < t.amount) :
    ∀ tid ∈ withdrawalIds new, 0 ≤ db.amountOf tid := by
  intro tid ht
  have hm : Commit.completed tid .Withdrawal ∈ new := by
    clear h
    induction new with
    | nil => cases ht
    | cons e es ih =>
      rcases e with _ | _ | _ | ⟨_, _ | _⟩ | _ | _ | _ <;> simp only [withdrawalIds] at ht <;>
        first
          | exact List.mem_cons_of_mem _ (ih ht)
          | (rcases List.mem_cons.mp ht with rfl | ht
             · exact List.mem_cons_self _ _
             · exact List.mem_cons_of_mem _ (ih ht))
  obtain ⟨t, ht, hp⟩ := h tid _ hm
  simp [Db.amountOf, ht]; omega

-- From non-negative balances, every run of service calls keeps every balance non-negative,
-- and what its withdrawal completions take from an account, counting each distinct
-- withdrawal once, is at most the balance at the start plus what its deposit completions
-- added.
theorem solvent_and_withdrawals_bounded (db : Db) (hs : db.Solvent) (hf : db.Fresh)
    (calls : List (Call × Faults)) :
    (runCalls db calls).Solvent ∧
    ∀ a (S : List Nat), S.Nodup →
      (∀ tid ∈ S, Commit.completed tid .Withdrawal ∈
          (runCalls db calls).journal.drop db.journal.length ∧
        (runCalls db calls).accountOf tid = some a) →
      (S.map (runCalls db calls).amountOf).sum ≤
        db.balanceOf a + completedTotal (runCalls db calls) a .Deposit
          ((runCalls db calls).journal.drop db.journal.length) := by
  have P := runCalls_preserves db calls
  have hs' := P.solvent hs
  obtain ⟨new, hj, hpos, hbal⟩ := P.ledger hf
  have hnew : (runCalls db calls).journal.drop db.journal.length = new := by simp [hj]
  refine ⟨hs', fun a S hS hmem => ?_⟩
  rw [hnew] at hmem ⊢
  have h1 := sum_le_completedTotal _ a new S hS (withdrawalIds_pos hpos) hmem
  have h2 := hbal a
  have h3 := hs'.balanceOf_nonneg a
  rw [ledgerDelta_eq_sub] at h2
  omega

-- One user without a webhook URL, whose account holds 100.00.
def fundedDb : Db :=
  { users := fun u => if u = 0 then some ⟨none⟩ else none
    accounts := fun a => if a = 0 then some ⟨0, 10000⟩ else none
    transactions := fun _ => none
    deliveries := [], webhookQueue := [], nextId := 0, journal := [] }

theorem fundedDb_solvent : fundedDb.Solvent := by
  intro i acc h
  by_cases hi : i = 0 <;> simp [fundedDb, hi] at h
  exact h ▸ by decide

theorem fundedDb_fresh : fundedDb.Fresh := fun _ _ => rfl

-- Two withdrawals of 80.00 pass the creation check against 100.00; a deposit of 100.00
-- completes; then both withdrawals complete.
def overdrawRun : List (Call × Faults) :=
  [(.createPendingWithdrawal 0 8000 "USD" none none, .clean),
   (.createPendingWithdrawal 0 8000 "USD" none none, .clean),
   (.createPendingDeposit 0 10000 "USD" none none, .clean),
   (.completeDeposit false 2 "BANK-DEP-1" (some "ok"), .clean),
   (.completeWithdrawal false 0 "BANK-WTH-1" (some "ok"), .clean),
   (.completeWithdrawal false 1 "BANK-WTH-2" (some "ok"), .clean)]

theorem withdrawals_above_balance_all_succeed :
    (runCalls fundedDb (overdrawRun.take 2)).balanceOf 0 = 10000 ∧
    ((runCalls fundedDb overdrawRun).transactions 0).map
        (fun t => (t.transactionType, t.amount, t.status)) = some (.Withdrawal, 8000, .Success) ∧
    ((runCalls fundedDb overdrawRun).transactions 1).map
        (fun t => (t.transactionType, t.amount, t.status)) = some (.Withdrawal, 8000, .Success) ∧
    10000 < 8000 + 8000 := by
  decide

theorem solvent_and_withdrawals_bounded_overdraw :
    fundedDb.Solvent ∧ fundedDb.Fresh ∧ (runCalls fundedDb overdrawRun).Solvent ∧
    ∀ a (S : List Nat), S.Nodup →
      (∀ tid ∈ S, Commit.completed tid .Withdrawal ∈
          (runCalls fundedDb overdrawRun).journal.drop fundedDb.journal.length ∧
        (runCalls fundedDb overdrawRun).accountOf tid = some a) →
      (S.map (runCalls fundedDb overdrawRun).amountOf).sum ≤
        fundedDb.balanceOf a + completedTotal (runCalls fundedDb overdrawRun) a .Deposit
          ((runCalls fundedDb overdrawRun).journal.drop fundedDb.journal.length) :=
  ⟨fundedDb_solvent, fundedDb_fresh,
    solvent_and_withdrawals_bounded fundedDb fundedDb_solvent fundedDb_fresh overdrawRun⟩

end Withdrawals

end PaymentGateway.Ledger
