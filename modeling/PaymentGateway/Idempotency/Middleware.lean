import PaymentGateway.Idempotency.Utf8

namespace PaymentGateway.Idempotency

-- `IDEMPOTENCY_HEADER`
def idempotencyHeader : String := "Idempotency-Key"

-- `IdempotencyService._get_key`: one Redis keyspace for every client.
def getKey (idempotencyKey : String) : String := "idempotency:" ++ idempotencyKey

theorem getKey_injective {a b : String} (h : getKey a = getKey b) : a = b := by
  have := congrArg String.data h
  simp only [getKey, String.data_append, List.append_cancel_left_eq] at this
  exact String.ext this

-- A response as the middleware handles it: the status, the bytes of the body and the headers.
structure Response where
  statusCode : Nat
  body : List UInt8
  headers : List (String × String)
  deriving DecidableEq, Repr

section Json

def hexDigit (n : Nat) : Char := if n < 10 then Char.ofNat (48 + n) else Char.ofNat (87 + n)

-- `json.dumps` with `ensure_ascii=False` escapes the quote, the backslash and the control
-- characters only.
def jsonEscapeChar (c : Char) : String :=
  if c = '\\' then "\\\\" else if c = '"' then "\\\""
  else if c = '\x08' then "\\b" else if c = '\x0c' then "\\f"
  else if c = '\n' then "\\n" else if c = '\r' then "\\r" else if c = '\t' then "\\t"
  else if c.toNat < 0x20 then "\\u00" ++ String.mk [hexDigit (c.toNat / 16), hexDigit (c.toNat % 16)]
  else c.toString

def jsonString (s : String) : String := "\"" ++ String.join (s.data.map jsonEscapeChar) ++ "\""

-- `JSONResponse.render` of a flat object of strings: `separators=(",", ":")`.
def jsonObject (fields : List (String × String)) : List UInt8 :=
  encodeUtf8 ("\x7b" ++ ",".intercalate (fields.map fun f => jsonString f.1 ++ ":" ++ jsonString f.2) ++
    "\x7d").data

end Json

-- The 400 for a request without the header.
def missingKey : Response :=
  ⟨400, jsonObject [("error", "Bad Request"),
    ("message", "Missing required header: " ++ idempotencyHeader),
    ("details", "Idempotency key is required for this operation to ensure request safety " ++
      "and prevent duplicate processing.")], []⟩

-- The 409 for a key whose lock is held and whose record is not COMPLETED.
def conflict (key : String) : Response :=
  ⟨409, jsonObject [("error", "conflict"),
    ("message", "this request is already being processed. please retry in a few seconds."),
    ("idempotency_key", key)], [("Retry-After", "5"), (idempotencyHeader, key)]⟩

-- `headers[name] = value` on a dict.
def setHeader (headers : List (String × String)) (name value : String) : List (String × String) :=
  if headers.any (·.1 == name) then headers.map fun h => if h.1 = name then (name, value) else h
  else headers ++ [(name, value)]

-- The value at `idempotency:<key>` as `check_existing` loads it: the PROCESSING sentinel, or the
-- COMPLETED record's `response_body`, `status_code` and `headers`.
inductive Entry
  | processing
  | completed (responseBody : String) (statusCode : Nat) (headers : List (String × String))
  deriving DecidableEq, Repr

-- The cache hit: the stored body encoded again, the stored status, the headers and the key.
def replay (key : String) (responseBody : String) (statusCode : Nat)
    (headers : List (String × String)) : Response :=
  ⟨statusCode, encodeUtf8 responseBody.data, setHeader headers idempotencyHeader key⟩

-- The record `save_response` writes for a response: none where `response_body.decode("utf-8")`
-- raises.
def savedEntry (r : Response) : Option Entry :=
  (decodeUtf8 r.body).map fun cs => .completed (String.mk cs) r.statusCode r.headers

-- Where `dispatch` is for one request. A reply `none` is the exception `dispatch` lets
-- propagate (the server's 500).
inductive Phase
  | arrived
  | checking
  | handling
  | saving (response : Response)
  | releasing (reply : Option Response)
  | done (reply : Option Response)
  deriving DecidableEq, Repr

-- The phases in which the request holds the key: from a successful `acquire_lock` until it
-- saves or releases.
def Phase.holds : Phase → Bool
  | .handling | .saving _ | .releasing _ => true
  | _ => false

def Phase.answered : Phase → Bool
  | .done _ => true
  | _ => false

-- The middleware's next call for one request, with what the environment decides: whether a
-- cache call raises, and what `call_next` returns (`none`: it raised).
inductive Op
  | acquire (raises : Bool)
  | check (raises : Bool)
  | respond (outcome : Option Response)
  | save (raises : Bool)
  | release (raises : Bool)
  deriving DecidableEq, Repr

-- One step of `IdempotencyMiddleware.dispatch` for a request on `key`, with `entry` the value
-- at `idempotency:<key>`: the request's next phase and the value after. `none` where `op` is
-- not the request's next call.
def dispatch (key : String) (entry : Option Entry) : Phase → Op → Option (Phase × Option Entry)
  | .arrived, .acquire raises =>
    if raises then some (.done none, entry)
    else
      match entry with
      | none => some (.handling, some .processing)
      | some _ => some (.checking, entry)
  | .checking, .check raises =>
    if raises then some (.done none, entry)
    else
      match entry with
      | some (.completed body code headers) => some (.done (some (replay key body code headers)), entry)
      | _ => some (.done (some (conflict key)), entry)
  | .handling, .respond outcome =>
    match outcome with
    | none => some (.releasing none, entry)
    | some r => if r.statusCode < 400 then some (.saving r, entry) else some (.releasing (some r), entry)
  | .saving r, .save raises =>
    match savedEntry r with
    | some e => if raises then some (.releasing none, entry) else some (.done (some r), some e)
    | none => some (.releasing none, entry)
  | .releasing reply, .release raises =>
    if raises then
      -- a raising `release_lock` in the `try` is caught, and the `except` releases again
      match reply with
      | some _ => some (.releasing none, entry)
      | none => some (.done none, entry)
    else some (.done reply, none)
  | _, _ => none

section Dispatch

variable {key : String} {entry e : Option Entry} {p p' : Phase} {o : Op}

-- What a call does to the value of its key: nothing, without a change of holding; the
-- sentinel where nothing was, when it takes the key; anything, when it lets the key go.
theorem dispatch_effect (h : dispatch key entry p o = some (p', e)) :
    (e = entry ∧ p'.holds = p.holds) ∨
    (p.holds = false ∧ p'.holds = true ∧ entry = none ∧ e = some .processing) ∨
    (p.holds = true ∧ p'.holds = false) := by
  cases p <;> cases o <;> simp only [dispatch] at h
  all_goals repeat' split at h
  all_goals first | (cases h; done) | (obtain ⟨rfl, rfl⟩ := Prod.mk.inj (Option.some.inj h))
  all_goals simp_all [Phase.holds]

-- Only a successful `acquire_lock` takes the key, and it writes the sentinel where nothing was.
theorem dispatch_takes (h : dispatch key entry p o = some (p', e)) (hp : p.holds = false)
    (hp' : p'.holds = true) : entry = none ∧ e = some .processing := by
  rcases dispatch_effect h with ⟨-, h'⟩ | ⟨-, -, he⟩ | ⟨h', -⟩
  · rw [hp, hp'] at h'; cases h'
  · exact he
  · rw [hp] at h'; cases h'

-- A request that does not hold the key leaves its value alone.
theorem dispatch_keeps (h : dispatch key entry p o = some (p', e)) (hp : p.holds = false)
    (hp' : p'.holds = false) : e = entry := by
  rcases dispatch_effect h with ⟨he, -⟩ | ⟨-, h', -⟩ | ⟨h', -⟩
  · exact he
  · rw [hp'] at h'; cases h'
  · rw [hp] at h'; cases h'

-- A holder changes the value only when it lets the key go.
theorem dispatch_holder (h : dispatch key entry p o = some (p', e)) (hp' : p'.holds = true) :
    e = entry ∨ p.holds = false := by
  rcases dispatch_effect h with ⟨he, -⟩ | ⟨hp, -⟩ | ⟨-, h'⟩
  · exact .inl he
  · exact .inr hp
  · rw [hp'] at h'; cases h'

-- An answered request has no next call.
theorem dispatch_answered (hp : p.answered = true) : dispatch key entry p o = none := by
  cases p <;> cases hp; rfl

end Dispatch

-- A request names its client, and a number of the client's own.
structure RequestId where
  client : Nat
  seq : Nat
  deriving DecidableEq, Repr

structure Request where
  key : String
  phase : Phase
  deriving DecidableEq, Repr

-- `if not idempotency_key`: an absent or empty header.
def presentKey : Option String → Option String
  | some k => if k = "" then none else some k
  | none => none

theorem presentKey_ne {header : Option String} {k : String} (h : presentKey header = some k) :
    k ≠ "" := by
  cases header with
  | none => cases h
  | some k' =>
    simp only [presentKey] at h
    split_ifs at h with hk
    exact Option.some.inj h ▸ hk

-- A request as `dispatch` first sees it: answered 400 at once without a key.
def Request.ofHeader (header : Option String) : Request :=
  match presentKey header with
  | some k => ⟨k, .arrived⟩
  | none => ⟨header.getD "", .done (some missingKey)⟩

theorem Request.ofHeader_holds (header : Option String) : (Request.ofHeader header).phase.holds = false := by
  unfold Request.ofHeader; split <;> rfl

-- A request answered at once had no key.
theorem Request.ofHeader_answered (header : Option String)
    (h : (Request.ofHeader header).phase.answered = true) : (Request.ofHeader header).key = "" := by
  unfold Request.ofHeader at h ⊢
  split
  · rename_i hk; rw [hk] at h; cases h
  · rename_i hn
    cases header with
    | none => rfl
    | some k =>
      simp only [presentKey, ite_eq_left_iff, reduceCtorEq, imp_false, not_not] at hn
      simp [hn]

-- A request still in flight has its key from the header.
theorem Request.ofHeader_arrived (header : Option String) (h : (Request.ofHeader header).phase.answered = false) :
    presentKey header = some (Request.ofHeader header).key ∧ (Request.ofHeader header).phase = .arrived := by
  unfold Request.ofHeader at h ⊢
  split
  · exact ⟨‹_›, rfl⟩
  · rename_i hk; rw [hk] at h; cases h

-- The cache (Redis, by raw key), the requests the middleware has seen, and a history variable:
-- the key of every handler invocation, in order.
structure System where
  cache : String → Option Entry
  requests : RequestId → Option Request
  invoked : List String

-- `send`: a POST to `/api/v1/deposits` or `/api/v1/withdrawals` with the header's value.
-- `op`: the middleware's next call for a request. `expire`: a TTL runs out.
inductive Action
  | send (id : RequestId) (header : Option String)
  | op (id : RequestId) (o : Op)
  | expire (key : String)
  deriving DecidableEq, Repr

namespace System

def init : System := ⟨fun _ => none, fun _ => none, []⟩

def step (s : System) : Action → System
  | .send id header =>
    match s.requests id with
    | some _ => s
    | none => { s with requests := Function.update s.requests id (some (.ofHeader header)) }
  | .op id o =>
    match s.requests id with
    | none => s
    | some q =>
      match dispatch q.key (s.cache (getKey q.key)) q.phase o with
      | none => s
      | some (p, e) =>
        { cache := Function.update s.cache (getKey q.key) e
          requests := Function.update s.requests id (some { q with phase := p })
          invoked := if p = .handling then s.invoked ++ [q.key] else s.invoked }
  | .expire k => { s with cache := Function.update s.cache (getKey k) none }

def run (s : System) : List Action → System
  | [] => s
  | a :: rest => (s.step a).run rest

@[simp] theorem run_nil (s : System) : s.run [] = s := rfl

@[simp] theorem run_cons (s : System) (a : Action) (rest : List Action) :
    s.run (a :: rest) = (s.step a).run rest := rfl

-- The middleware's call for a request, spelled out: it changes that request and the value of
-- its own key, and nothing else.
theorem step_op {s : System} {id : RequestId} {q : Request} (hq : s.requests id = some q)
    {o : Op} {p : Phase} {e : Option Entry}
    (h : dispatch q.key (s.cache (getKey q.key)) q.phase o = some (p, e)) :
    s.step (.op id o) =
      ⟨Function.update s.cache (getKey q.key) e, Function.update s.requests id (some { q with phase := p }),
        if p = .handling then s.invoked ++ [q.key] else s.invoked⟩ := by
  simp only [step, hq, h]

theorem step_op_none {s : System} {id : RequestId} {q : Request} (hq : s.requests id = some q)
    {o : Op} (h : dispatch q.key (s.cache (getKey q.key)) q.phase o = none) : s.step (.op id o) = s := by
  simp only [step, hq, h]

theorem step_op_absent {s : System} {id : RequestId} (hq : s.requests id = none) (o : Op) :
    s.step (.op id o) = s := by
  simp only [step, hq]

theorem step_send {s : System} {id : RequestId} (hs : s.requests id = none) (header : Option String) :
    s.step (.send id header) =
      { s with requests := Function.update s.requests id (some (.ofHeader header)) } := by
  simp only [step, hs]

theorem step_send_some {s : System} {id : RequestId} {q : Request} (hs : s.requests id = some q)
    (header : Option String) : s.step (.send id header) = s := by
  simp only [step, hs]

-- What the middleware's call for a request does: nothing (no such request, or not its next
-- call), or the request's next phase and its key's next value.
theorem step_op_cases (s : System) (id : RequestId) (o : Op) :
    s.step (.op id o) = s ∨
    ∃ q p e, s.requests id = some q ∧ dispatch q.key (s.cache (getKey q.key)) q.phase o = some (p, e) ∧
      s.step (.op id o) =
        ⟨Function.update s.cache (getKey q.key) e, Function.update s.requests id (some { q with phase := p }),
          if p = .handling then s.invoked ++ [q.key] else s.invoked⟩ := by
  cases hq : s.requests id with
  | none => exact .inl (step_op_absent hq o)
  | some q =>
    cases hd : dispatch q.key (s.cache (getKey q.key)) q.phase o with
    | none => exact .inl (step_op_none hq hd)
    | some pe => exact .inr ⟨q, pe.1, pe.2, rfl, hd, step_op hq hd⟩

theorem step_send_cases (s : System) (id : RequestId) (header : Option String) :
    s.step (.send id header) = s ∨ s.requests id = none ∧
      s.step (.send id header) = { s with requests := Function.update s.requests id (some (.ofHeader header)) } := by
  cases hs : s.requests id with
  | none => exact .inr ⟨rfl, step_send hs header⟩
  | some q => exact .inl (step_send_some hs header)

-- A request after an update of the requests: the updated one, or one from before.
theorem update_eq_some {f : RequestId → Option Request} {id id' : RequestId} {v q : Request}
    (h : Function.update f id (some v) id' = some q) : id' = id ∧ v = q ∨ id' ≠ id ∧ f id' = some q := by
  rw [Function.update_apply] at h
  split_ifs at h with hi
  · exact .inl ⟨hi, Option.some.inj h⟩
  · exact .inr ⟨hi, h⟩

-- The cache after a write to one idempotency key, at another's.
theorem update_getKey (c : String → Option Entry) (k k' : String) (e : Option Entry) :
    Function.update c (getKey k) e (getKey k') = if k' = k then e else c (getKey k') := by
  by_cases h : k' = k
  · subst h; simp
  · rw [Function.update_noteq (fun he => h (getKey_injective he)), if_neg h]

end System

end PaymentGateway.Idempotency
