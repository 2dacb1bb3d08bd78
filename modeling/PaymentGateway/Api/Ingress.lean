import PaymentGateway.Worker.System
import PaymentGateway.Idempotency.Middleware

namespace PaymentGateway.Api

open PaymentGateway.Ledger PaymentGateway.Worker PaymentGateway.Idempotency

-- What a POST to `/api/v1/deposits` or `/api/v1/withdrawals` asks for, with the account and the
-- user its dependencies resolve.
structure CreateRequest where
  kind : TransactionType
  accountId : Nat
  userId : Nat
  amount : Int
  currency : String
  deriving DecidableEq, Repr

-- `IdempotencyMiddleware` in front of `create_deposit` / `create_withdrawal`, and the rows and
-- queues behind them.
structure Gateway where
  front : Idempotency.System
  back : Worker.System
  bodies : RequestId → Option CreateRequest

-- `handle`: `call_next` runs the endpoint for a request that holds its key; `rendered` is the
-- framework's serialisation of the endpoint's answer (ids and timestamps the model does not
-- track), whose status the endpoint decides. `op` is any other call of the middleware.
inductive GatewayAction
  | send (id : RequestId) (header : Option String) (request : CreateRequest)
  | op (id : RequestId) (o : Op)
  | handle (id : RequestId) (f : CreateFaults) (taskId : String) (rendered : Response)
  | expire (key : String)

namespace Gateway

def init (db : Db) : Gateway := ⟨.init, .init db, fun _ => none⟩

def step (g : Gateway) : GatewayAction → Gateway
  | .send id header request =>
    match g.front.requests id with
    | some _ => g
    | none =>
      { g with
        front := g.front.step (.send id header)
        bodies := Function.update g.bodies id (some request) }
  | .op id o =>
    match o with
    | .respond _ => g
    | _ => { g with front := g.front.step (.op id o) }
  | .handle id f task rendered =>
    match g.front.requests id, g.bodies id with
    | some q, some r =>
      if q.phase = .handling then
        let created := createTransaction r.kind f r.accountId r.userId r.amount r.currency task g.back.db
        { g with
          back := g.back.step (.submit r.kind f r.accountId r.userId r.amount r.currency task)
          front := g.front.step
            (.op id (.respond (some { rendered with statusCode := created.2.2.statusCode }))) }
      else g
    | _, _ => g
  | .expire k => { g with front := g.front.step (.expire k) }

def run (g : Gateway) : List GatewayAction → Gateway
  | [] => g
  | a :: rest => (g.step a).run rest

end Gateway

-- A deposit of 50.00 by user 0 into account 0, and the body the endpoint renders.
def depositRequest : CreateRequest := ⟨.Deposit, 0, 0, 5000, "USD"⟩

def depositRendered : Response :=
  ⟨202, jsonObject [("message", "Deposit request accepted and is being processed")],
    [("content-type", "application/json")]⟩

-- The commit of `celery_task_id` fails after the row was committed and the job enqueued.
def taskCommitFails : CreateFaults :=
  { CreateFaults.clean with taskCommit := some ⟨.DatabaseError, "connection reset"⟩ }

-- The client posts the deposit with key "K" and gets a 500; it retries with the same key.
def retriedDeposit : List GatewayAction :=
  [.send ⟨0, 0⟩ (some "K") depositRequest, .op ⟨0, 0⟩ (.acquire false),
   .handle ⟨0, 0⟩ taskCommitFails "task-1" depositRendered, .op ⟨0, 0⟩ (.release false),
   .send ⟨0, 1⟩ (some "K") depositRequest, .op ⟨0, 1⟩ (.acquire false),
   .handle ⟨0, 1⟩ .clean "task-2" depositRendered, .op ⟨0, 1⟩ (.save false)]

theorem retry_after_failed_commit_creates_twice :
    (((Gateway.init fundedDb).run retriedDeposit).front.requests ⟨0, 0⟩).map Request.phase =
      some (.done (some { depositRendered with statusCode := 500 })) ∧
    ((Gateway.init fundedDb).run retriedDeposit).front.invoked = ["K", "K"] ∧
    ((Gateway.init fundedDb).run retriedDeposit).back.db.nextId = 2 ∧
    (((Gateway.init fundedDb).run retriedDeposit).back.queue.map fun m => m.1.transactionId) =
      [0, 1] := by
  decide

end PaymentGateway.Api
