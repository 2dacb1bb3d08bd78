import PaymentGateway.Api.Access
import PaymentGateway.Worker.Runs

namespace PaymentGateway.Api

open PaymentGateway.Ledger PaymentGateway.Worker

-- What `get_deposit` and `get_withdrawal` answer: the row under the id, on an account of the
-- caller's.
theorem answer_transaction_row {r : ReadDb} {uid : Nat} {u : UserRecord} {req : ReadRequest} {id : Nat}
    {t : Transaction} (hreq : req = .getDeposit id ∨ req = .getWithdrawal id)
    (h : answer r uid u req = .ok (.transaction t)) :
    r.db.transactions id = some t ∧ r.db.owners t.accountId = some uid := by
  obtain ⟨p, ha, h⟩ : ∃ p, getCurrentUserAccount r uid = .ok p ∧
      ReadReply.transaction <$> getUserTransaction r id p.1 (if req = .getDeposit id then "deposit" else "withdrawal") =
        .ok (.transaction t) := by
    rcases hreq with rfl | rfl <;> simpa using bind_eq_ok h
  obtain ⟨hacc, hu⟩ := getCurrentUserAccount_ok ha
  obtain ⟨ht, hta⟩ := getUserTransaction_ok.mp (map_transaction_eq_ok.mp h)
  exact ⟨ht, by simp [Db.owners, hta, hacc, hu]⟩

-- Once a user reads transaction `id` through `GET /deposits/{id}` or `GET /withdrawals/{id}`,
-- every successful read of `id` after any run of the worker system (new requests, task
-- deliveries, executions and bank callbacks, in any interleaving) is by the same user: no
-- service call moves a transaction to another account, or an account to another user.
theorem transaction_reader_fixed (r : ReadDb) (s : System) (hfresh : s.db.Fresh) (hr : r.db = s.db)
    (actions : List Action) (id : Nat) (req req' : ReadRequest)
    (hreq : req = .getDeposit id ∨ req = .getWithdrawal id)
    (hreq' : req' = .getDeposit id ∨ req' = .getWithdrawal id)
    (tok tok' : Option (Option String)) (t t' : Transaction)
    (h : serveRead r tok req = .ok (.transaction t))
    (h' : serveRead { r with db := (s.run actions).db } tok' req' = .ok (.transaction t')) :
    ∃ uid u u', getCurrentUser r tok = .ok (uid, u) ∧
      getCurrentUser { r with db := (s.run actions).db } tok' = .ok (uid, u') := by
  obtain ⟨⟨uid, u⟩, hc, h⟩ := bind_eq_ok h
  obtain ⟨⟨uid', u'⟩, hc', h'⟩ := bind_eq_ok h'
  obtain ⟨ht, hown⟩ := answer_transaction_row hreq h
  obtain ⟨ht', hown'⟩ := answer_transaction_row hreq' h'
  rw [hr] at ht hown
  -- the row is still there, on the same account, whose user is the same
  obtain ⟨t'', ht'', hsame, -⟩ := (System.run_preserves s actions).rows hfresh id t ht
  rw [show ({ r with db := (s.run actions).db } : ReadDb).db = (s.run actions).db from rfl, ht'',
    Option.some.injEq] at ht'
  subst ht'
  rw [show ({ r with db := (s.run actions).db } : ReadDb).db = (s.run actions).db from rfl,
    hsame, System.run_owners, hown, Option.some.injEq] at hown'
  subst hown'
  exact ⟨uid, u, u', hc, hc'⟩

-- Between the two reads a deposit is created and executed to SUCCESS, and the bank's SUCCESS
-- callback for the withdrawal arrives.
def busyRun : List Action :=
  [.submit .Deposit .clean 0 0 5000 "USD" "task-1", .deliver 0 false, .advance 0 okInput,
    .advance 0 okInput, .advance 0 okInput, .callback 0 true successCallback .clean]

set_option maxRecDepth 8000 in
theorem one_withdrawal_reader_fixed :
    oneWithdrawalDb.db.Fresh ∧ oneWithdrawalDb.db = (System.init oneWithdrawalDb.db).db ∧
    (ReadRequest.getDeposit 0 = .getDeposit 0 ∨ ReadRequest.getDeposit 0 = .getWithdrawal 0) ∧
    (ReadRequest.getWithdrawal 0 = .getDeposit 0 ∨ ReadRequest.getWithdrawal 0 = .getWithdrawal 0) ∧
    serveRead oneWithdrawalDb (some (some "0")) (.getDeposit 0) = .ok (.transaction withdrawalRow) ∧
    serveRead { oneWithdrawalDb with db := ((System.init oneWithdrawalDb.db).run busyRun).db } (some (some "0"))
      (.getWithdrawal 0) = .ok (.transaction (withdrawalRow.completedWith "BANK-1" (some "ok"))) ∧
    ∃ uid u u', getCurrentUser oneWithdrawalDb (some (some "0")) = .ok (uid, u) ∧
      getCurrentUser { oneWithdrawalDb with db := ((System.init oneWithdrawalDb.db).run busyRun).db }
        (some (some "0")) = .ok (uid, u') :=
  have hfresh : oneWithdrawalDb.db.Fresh := fun i hi => by
    simp only [oneWithdrawalDb] at hi ⊢
    rw [if_neg (by omega)]
  have h : serveRead oneWithdrawalDb (some (some "0")) (.getDeposit 0) = .ok (.transaction withdrawalRow) := rfl
  have h' : serveRead { oneWithdrawalDb with db := ((System.init oneWithdrawalDb.db).run busyRun).db }
      (some (some "0")) (.getWithdrawal 0) =
        .ok (.transaction (withdrawalRow.completedWith "BANK-1" (some "ok"))) := rfl
  ⟨hfresh, rfl, .inl rfl, .inr rfl, h, h',
    transaction_reader_fixed oneWithdrawalDb (System.init oneWithdrawalDb.db) hfresh rfl busyRun 0 _ _ (.inl rfl)
      (.inr rfl) _ _ _ _ h h'⟩

end PaymentGateway.Api
