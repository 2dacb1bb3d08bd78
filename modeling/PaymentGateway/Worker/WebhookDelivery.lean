import PaymentGateway.Ledger.Model

namespace PaymentGateway.Worker

open PaymentGateway.Ledger

-- `WEBHOOK_MAX_RETRIES`, the `max_retries` of `WebhookDeliveryTask.retry_kwargs`.
def webhookMaxRetries : Nat := 5

-- What the POST gives: a response, with its status code, its text and `str()` of the
-- `HTTPStatusError` that `raise_for_status()` raises for it; or an `httpx.RequestError`
-- (a connection failure or a timeout) with its text.
inductive PostOutcome
  | response (statusCode : Nat) (text : String) (statusError : String)
  | requestError (message : String)
  deriving DecidableEq, Repr

namespace PostOutcome

end PostOutcome

-- What an execution ends with: the dict it returns, or the exception it re-raises.
inductive DeliveryResult
  | notFound
  | returned (success : Bool) (httpStatusCode : Nat) (response : String)
  | raised (message : String)
  deriving DecidableEq, Repr

def DeliveryResult.isRaised : DeliveryResult → Bool
  | .raised _ => true
  | _ => false

-- The `except (httpx.RequestError, httpx.HTTPStatusError)` branch: back to PENDING, or FAILED from
-- `retries = WEBHOOK_MAX_RETRIES - 1` on, and the exception is raised again.
def retryFailure (retries : Nat) (d : DeliveryRow) (message : String) : Option DeliveryRow × DeliveryResult :=
  (some { d with
      errorMessage := some (message.take 500),
      status := if webhookMaxRetries - 1 ≤ retries then .Failed else .Pending },
    .raised message)

-- One execution of `send_webhook_notification` with `request.retries = retries`, on the row as
-- committed when it starts: the row it leaves committed and its result.
def sendWebhookNotification (retries : Nat) (row : Option DeliveryRow) (outcome : PostOutcome) :
    Option DeliveryRow × DeliveryResult :=
  match row with
  | none => (none, .notFound)
  | some d =>
    let sending := { d with attemptCount := d.attemptCount + 1, status := .Sending }
    match outcome with
    | .requestError message => retryFailure retries sending message
    | .response code text statusError =>
      if 500 ≤ code ∧ code < 600 then retryFailure retries sending statusError
      else
        let recorded := { sending with httpStatusCode := some code, responseBody := some (text.take 1000) }
        if 200 ≤ code ∧ code < 300 then (some { recorded with status := .Success }, .returned true code (text.take 200))
        else
          (some { recorded with
              status := .Failed, errorMessage := some ("HTTP " ++ toString code ++ ": " ++ text.take 500) },
            .returned false code (text.take 200))

-- The executions Celery makes of one message: the row after them, each one's result, the status
-- committed when each one started (and then posted), and whether `on_failure` sent the message
-- to the DLQ.
structure Chain where
  row : Option DeliveryRow
  results : List DeliveryResult
  posted : List WebhookDeliveryStatus
  deadLettered : Bool
  deriving DecidableEq, Repr

-- Celery's `autoretry_for` with `max_retries = 5`: an execution that raises runs again with
-- `retries + 1` while `retries < 5`; the last one fails the task. Each execution's POST gives
-- the next of `outcomes`.
def deliver (retries : Nat) (row : Option DeliveryRow) : List PostOutcome → Chain
  | [] => ⟨row, [], [], false⟩
  | o :: rest =>
    let step := sendWebhookNotification retries row o
    let here := (row.map (·.status)).toList
    match step.2 with
    | .raised _ =>
      if retries < webhookMaxRetries then
        let next := deliver (retries + 1) step.1 rest
        ⟨next.row, step.2 :: next.results, here ++ next.posted, next.deadLettered⟩
      else ⟨step.1, [step.2], here, true⟩
    | _ => ⟨step.1, [step.2], here, false⟩

theorem deliver_cons (retries : Nat) (row : Option DeliveryRow) (o : PostOutcome) (rest : List PostOutcome) :
    deliver retries row (o :: rest) =
      if (sendWebhookNotification retries row o).2.isRaised ∧ retries < webhookMaxRetries then
        ⟨(deliver (retries + 1) (sendWebhookNotification retries row o).1 rest).row,
          (sendWebhookNotification retries row o).2 ::
            (deliver (retries + 1) (sendWebhookNotification retries row o).1 rest).results,
          (row.map (·.status)).toList ++ (deliver (retries + 1) (sendWebhookNotification retries row o).1 rest).posted,
          (deliver (retries + 1) (sendWebhookNotification retries row o).1 rest).deadLettered⟩
      else ⟨(sendWebhookNotification retries row o).1, [(sendWebhookNotification retries row o).2],
        (row.map (·.status)).toList, (sendWebhookNotification retries row o).2.isRaised⟩ := by
  simp only [deliver]
  split <;> rename_i h <;> simp [h, DeliveryResult.isRaised]

-- An execution writes the delivery columns only: the row keeps its id and its transaction.
theorem sendWebhookNotification_keys (retries : Nat) (d : DeliveryRow) (o : PostOutcome) :
    ∃ d', (sendWebhookNotification retries (some d) o).1 = some d' ∧ d'.id = d.id ∧
      d'.transactionId = d.transactionId := by
  cases o with
  | requestError message => exact ⟨_, rfl, rfl, rfl⟩
  | response code text statusError =>
    simp only [sendWebhookNotification, retryFailure]
    split_ifs <;> exact ⟨_, rfl, rfl, rfl⟩

theorem deliver_keys (retries : Nat) (d : DeliveryRow) (outcomes : List PostOutcome) :
    ∃ d', (deliver retries (some d) outcomes).row = some d' ∧ d'.id = d.id ∧
      d'.transactionId = d.transactionId := by
  induction outcomes generalizing retries d with
  | nil => exact ⟨d, rfl, rfl, rfl⟩
  | cons o rest ih =>
    obtain ⟨d₁, h₁, hi, ht⟩ := sendWebhookNotification_keys retries d o
    rw [deliver_cons, h₁]
    split
    · obtain ⟨d', h', hi', ht'⟩ := ih (retries + 1) d₁
      exact ⟨d', h', hi'.trans hi, ht'.trans ht⟩
    · exact ⟨d₁, rfl, hi, ht⟩

-- Celery's executions of one `send_webhook_notification` message for delivery `id`, on the
-- committed rows: the row `get_by_id` finds (the first with that id) as the last execution left
-- it, and whether `on_failure` sent the message to `webhooks.dlq`.
def runWebhookTask (id : Nat) (outcomes : List PostOutcome) (db : Db) : Db × Bool :=
  match db.deliveries.findIdx? (·.id == id) with
  | none => (db, false)
  | some k =>
    let chain := deliver 0 db.deliveries[k]? outcomes
    (match chain.row with
      | some row => db.setDelivery k row
      | none => db,
     chain.deadLettered)

-- The rows after a task: as they were, or one delivery row rewritten, with its transaction kept.
theorem runWebhookTask_db (id : Nat) (outcomes : List PostOutcome) (db : Db) :
    (runWebhookTask id outcomes db).1 = db ∨
    ∃ k d d', db.deliveries[k]? = some d ∧ d'.transactionId = d.transactionId ∧
      (runWebhookTask id outcomes db).1 = db.setDelivery k d' := by
  unfold runWebhookTask
  split
  · exact .inl rfl
  · rename_i k hk
    obtain ⟨hlt, -⟩ := List.findIdx?_eq_some_iff_getElem.mp hk
    obtain ⟨d', h', -, ht⟩ := deliver_keys 0 db.deliveries[k] outcomes
    simp only [List.getElem?_eq_getElem hlt, h']
    exact .inr ⟨k, _, d', List.getElem?_eq_getElem hlt, ht, rfl⟩

-- A delivery of a completed deposit, as `create_delivery` makes it.
def hookDelivery : WebhookDelivery :=
  ⟨0, 0, "client-hook", ⟨"transaction.completed", .Success, 5000, 5000⟩, .Pending, 0, 5⟩

-- The endpoint answers 503 five times, then 200.
def outageThenOk : List PostOutcome :=
  List.replicate 5 (.response 503 "Service Unavailable" "Server error '503 Service Unavailable'") ++
    [.response 200 "ok" ""]

end PaymentGateway.Worker
