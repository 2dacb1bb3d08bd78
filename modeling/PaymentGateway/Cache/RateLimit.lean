import PaymentGateway.Cache.RateLimiter

namespace PaymentGateway.Cache

-- The settings the middleware reads: `rate_limit_enabled` and the two limits its rules name.
structure RateSettings where
  rateLimitEnabled : Bool
  rateLimitPerUserBalance : Int
  rateLimitPerUserTransactions : Int
  deriving DecidableEq, Repr

-- The defaults of `Settings`.
def RateSettings.defaults : RateSettings := ⟨true, 10, 20⟩

-- A `RateLimitRule` with `get_limit()` already read from the settings.
structure RateLimitRule where
  pattern : String
  method : String
  limit : Int
  windowSeconds : Int
  description : String
  deriving DecidableEq, Repr

-- `RateLimitConfig.RULES`.
def rules (settings : RateSettings) : List RateLimitRule :=
  [⟨"/api/v1/users/me/balance", "GET", settings.rateLimitPerUserBalance, 60, "balance check"⟩,
   ⟨"/api/v1/users/me/transactions", "GET", settings.rateLimitPerUserTransactions, 60, "transaction list"⟩]

-- `_matches_pattern`: a pattern with a brace matches by the text before it, less trailing
-- slashes; any other pattern matches the paths that start with it.
def matchesPattern (path pattern : String) : Bool :=
  if '\x7b' ∈ pattern.data then
    (((pattern.data.takeWhile (· != '\x7b')).reverse.dropWhile (· == '/')).reverse).isPrefixOf path.data
  else path == pattern || pattern.data.isPrefixOf path.data

-- `get_rule_for_request`: the first rule whose pattern and method match.
def getRuleForRequest (settings : RateSettings) (path method : String) : Option RateLimitRule :=
  (rules settings).find? fun rule => matchesPattern path rule.pattern && method == rule.method

-- `_build_rate_limit_key`, with `request.state.user_id` and `request.client.host`.
def buildRateLimitKey (userId clientHost : Option String) (pattern : String) : String :=
  match userId with
  | some u =>
    if u.isEmpty then "rate_limit:ip:" ++ clientHost.getD "test_client" ++ ":" ++ pattern
    else "rate_limit:user:" ++ u ++ ":" ++ pattern
  | none => "rate_limit:ip:" ++ clientHost.getD "test_client" ++ ":" ++ pattern

-- What the middleware reads of a request, and `time.time()` when `is_allowed` runs.
structure RateRequest where
  path : String
  method : String
  userId : Option String
  clientHost : Option String
  now : ℚ

def rateLimitHeader : String := "X-RateLimit-Limit"

def rateLimitRemainingHeader : String := "X-RateLimit-Remaining"

def rateLimitResetHeader : String := "X-RateLimit-Reset"

def rateLimitHeaders (limit : Int) (d : Decision) : List (String × String) :=
  [(rateLimitHeader, toString limit), (rateLimitRemainingHeader, toString d.remaining),
    (rateLimitResetHeader, toString d.resetTimestamp)]

-- The JSON body of the 429 answer.
structure LimitedBody where
  error : String
  message : String
  retryAfter : Int
  limit : Int
  windowSeconds : Int
  deriving DecidableEq, Repr

-- The request goes on to `call_next` (with the headers the middleware adds to its response),
-- or is answered 429.
inductive RateReply
  | forwarded (headers : List (String × String))
  | limited (headers : List (String × String)) (body : LimitedBody)
  deriving DecidableEq, Repr

def RateReply.isForwarded : RateReply → Bool
  | .forwarded _ => true
  | .limited _ _ => false

-- The answer `dispatch` gives a request `rule` counts, from the decision of `is_allowed`: its
-- headers, and the 429 body where it is refused.
def replyOf (rule : RateLimitRule) (d : Decision) : RateReply :=
  if d.allowed then .forwarded (rateLimitHeaders rule.limit d)
  else .limited (rateLimitHeaders rule.limit d) ⟨"rate_limit_exceeded",
    "Rate limit exceeded for " ++ rule.description ++ ". Please try again later.",
    rule.windowSeconds, rule.limit, rule.windowSeconds⟩

@[simp] theorem replyOf_isForwarded (rule : RateLimitRule) (d : Decision) :
    (replyOf rule d).isForwarded = d.allowed := by
  unfold replyOf; split <;> simp_all [RateReply.isForwarded]

-- `RateLimitMiddleware.dispatch` against the sorted sets of every key.
def dispatch (settings : RateSettings) (redis : String → SlidingWindow) (req : RateRequest) :
    (String → SlidingWindow) × RateReply :=
  if !settings.rateLimitEnabled then (redis, .forwarded [])
  else
    match getRuleForRequest settings req.path req.method with
    | none => (redis, .forwarded [])
    | some rule =>
      let key := buildRateLimitKey req.userId req.clientHost rule.pattern
      let r := isAllowed (redis key) rule.limit rule.windowSeconds req.now
      let headers := rateLimitHeaders rule.limit r.2
      (Function.update redis key r.1,
        if r.2.allowed then .forwarded headers
        else .limited headers ⟨"rate_limit_exceeded",
          "Rate limit exceeded for " ++ rule.description ++ ". Please try again later.",
          rule.windowSeconds, rule.limit, rule.windowSeconds⟩)

-- Requests served one after another, each with its answer.
def serveAll (settings : RateSettings) (redis : String → SlidingWindow) :
    List RateRequest → (String → SlidingWindow) × List (RateRequest × RateReply)
  | [] => (redis, [])
  | req :: rest =>
    let d := dispatch settings redis req
    let next := serveAll settings d.1 rest
    (next.1, (req, d.2) :: next.2)

-- Whom a key counts for: the user, or else the client's address.
inductive Client
  | user (id : String)
  | ip (host : String)
  deriving DecidableEq, Repr

def clientOf (userId clientHost : Option String) : Client :=
  match userId with
  | some u => if u.isEmpty then .ip (clientHost.getD "test_client") else .user u
  | none => .ip (clientHost.getD "test_client")

def Client.tag : Client → String
  | .user u => "user:" ++ u
  | .ip host => "ip:" ++ host

-- The key of a client's counter under a rule's pattern.
def keyOf (c : Client) (pattern : String) : String := "rate_limit:" ++ c.tag ++ ":" ++ pattern

theorem buildRateLimitKey_eq (userId clientHost : Option String) (pattern : String) :
    buildRateLimitKey userId clientHost pattern = keyOf (clientOf userId clientHost) pattern := by
  have hip : ∀ x : String, "rate_limit:ip:" ++ x = "rate_limit:" ++ ("ip:" ++ x) := fun x => by
    rw [← String.append_assoc]; rfl
  have huser : ∀ x : String, "rate_limit:user:" ++ x = "rate_limit:" ++ ("user:" ++ x) := fun x => by
    rw [← String.append_assoc]; rfl
  unfold buildRateLimitKey clientOf keyOf
  cases userId with
  | none => simp [Client.tag, String.append_assoc, hip]
  | some u => by_cases hu : u.isEmpty <;> simp [hu, Client.tag, String.append_assoc, hip, huser]

-- The text after the last colon: a pattern with no colon is read back from the key.
theorem append_colon_inj {a b a' b' : List Char} (hb : ':' ∉ b) (hb' : ':' ∉ b')
    (h : a ++ ':' :: b = a' ++ ':' :: b') : a = a' ∧ b = b' := by
  have key : ∀ {a b : List Char}, ':' ∉ b →
      (a ++ ':' :: b).reverse.takeWhile (· != ':') = b.reverse := fun {a b} hb => by
    rw [List.reverse_append, List.reverse_cons, List.append_assoc,
      List.takeWhile_append_of_pos (by simpa using fun x hx (he : x = ':') => hb (he ▸ List.mem_reverse.mp hx))]
    simp
  have hb₁ : b = b' := List.reverse_injective ((key hb).symm.trans (h ▸ key hb'))
  subst hb₁
  exact ⟨List.append_cancel_right h, rfl⟩

theorem Client.tag_inj {c c' : Client} (h : c.tag = c'.tag) : c = c' := by
  cases c <;> cases c' <;> simp only [Client.tag, String.ext_iff, String.data_append] at h
  · exact congrArg _ (String.ext (List.append_cancel_left h))
  · cases h
  · cases h
  · exact congrArg _ (String.ext (List.append_cancel_left h))

-- Two keys are the same only for the same client and the same pattern, for patterns with no
-- colon, as the rules' are.
theorem keyOf_inj {c c' : Client} {p p' : String} (hp : ':' ∉ p.data) (hp' : ':' ∉ p'.data)
    (he : keyOf c p = keyOf c' p') : c = c' ∧ p = p' := by
  simp only [keyOf, String.ext_iff, String.data_append, List.append_assoc] at he
  obtain ⟨ht, hpp⟩ := append_colon_inj hp hp' (by simpa using he)
  exact ⟨Client.tag_inj (String.ext ht), String.ext hpp⟩

section Rules

variable {settings : RateSettings} {rule rule' : RateLimitRule}

theorem rules_pattern (h : rule ∈ rules settings) : ':' ∉ rule.pattern.data := by
  simp only [rules, List.mem_cons, List.mem_singleton, List.not_mem_nil, or_false] at h
  rcases h with rfl | rfl <;> dsimp only <;> decide

theorem rules_pattern_inj (h : rule ∈ rules settings) (h' : rule' ∈ rules settings)
    (he : rule.pattern = rule'.pattern) : rule = rule' := by
  simp only [rules, List.mem_cons, List.mem_singleton, List.not_mem_nil, or_false] at h h'
  rcases h with rfl | rfl <;> rcases h' with rfl | rfl <;> dsimp only at he <;> first | rfl | exact absurd he (by decide)

theorem rules_window (h : rule ∈ rules settings) : rule.windowSeconds = 60 := by
  simp only [rules, List.mem_cons, List.mem_singleton, List.not_mem_nil, or_false] at h
  rcases h with rfl | rfl <;> rfl

end Rules

-- A request `dispatch` counts under `rule` for client `c`.
def countedUnder (settings : RateSettings) (c : Client) (rule : RateLimitRule) (req : RateRequest) : Bool :=
  settings.rateLimitEnabled && getRuleForRequest settings req.path req.method == some rule &&
    clientOf req.userId req.clientHost == c

section Dispatch

variable {settings : RateSettings} {redis : String → SlidingWindow} {req : RateRequest} {c : Client}
  {rule : RateLimitRule}

-- A counted request runs `is_allowed` on its client's key under the rule, and is answered from
-- its decision.
theorem dispatch_counted (h : countedUnder settings c rule req = true) :
    dispatch settings redis req =
      (Function.update redis (keyOf c rule.pattern)
        (isAllowed (redis (keyOf c rule.pattern)) rule.limit rule.windowSeconds req.now).1,
      replyOf rule (isAllowed (redis (keyOf c rule.pattern)) rule.limit rule.windowSeconds req.now).2) := by
  simp only [countedUnder, Bool.and_eq_true, beq_iff_eq] at h
  obtain ⟨⟨hen, hrule⟩, rfl⟩ := h
  simp only [dispatch, hen, Bool.not_true, Bool.false_eq_true, if_false, hrule, buildRateLimitKey_eq, replyOf]

-- Any other request leaves that key alone.
theorem dispatch_other (hr : rule ∈ rules settings) (h : countedUnder settings c rule req = false) :
    (dispatch settings redis req).1 (keyOf c rule.pattern) = redis (keyOf c rule.pattern) := by
  unfold dispatch
  split
  · rfl
  split
  · rfl
  rename_i hen rule' hrule'
  refine Function.update_noteq (fun he => ?_) _ _
  rw [buildRateLimitKey_eq] at he
  obtain ⟨rfl, hp⟩ := keyOf_inj (rules_pattern hr) (rules_pattern (List.mem_of_find?_eq_some hrule')) he
  have := rules_pattern_inj hr (List.mem_of_find?_eq_some hrule') hp
  subst this
  simp_all [countedUnder]

end Dispatch

-- Calls of `is_allowed` on one client's key under one rule: each request with its answer.
def serveKey (rule : RateLimitRule) (w : SlidingWindow) : List RateRequest → List (RateRequest × RateReply)
  | [] => []
  | req :: rest =>
    let r := isAllowed w rule.limit rule.windowSeconds req.now
    (req, replyOf rule r.2) :: serveKey rule r.1 rest

theorem serveKey_decisions (rule : RateLimitRule) (w : SlidingWindow) (reqs : List RateRequest) :
    (serveKey rule w reqs).map (fun p => (p.1.now, p.2.isForwarded)) =
      decisions w rule.limit rule.windowSeconds (reqs.map (·.now)) := by
  induction reqs generalizing w with
  | nil => rfl
  | cons req rest ih => simp only [serveKey, List.map_cons, decisions, replyOf_isForwarded, ih]

-- Whatever the other clients send and in whatever order, one client's requests under one rule
-- are answered, headers and body, as its key alone answers them.
theorem serveAll_filter (settings : RateSettings) (c : Client) (rule : RateLimitRule)
    (hr : rule ∈ rules settings) (redis : String → SlidingWindow) (reqs : List RateRequest) :
    (serveAll settings redis reqs).2.filter (fun p => countedUnder settings c rule p.1) =
      serveKey rule (redis (keyOf c rule.pattern)) (reqs.filter (countedUnder settings c rule)) := by
  induction reqs generalizing redis with
  | nil => rfl
  | cons req rest ih =>
    simp only [serveAll, List.filter_cons]
    cases hq : countedUnder settings c rule req
    · simp only [Bool.false_eq_true, if_false]
      rw [ih, dispatch_other hr hq]
    · simp only [if_true, dispatch_counted hq, serveKey, ih, Function.update_same]

theorem serveAll_counted (settings : RateSettings) (c : Client) (rule : RateLimitRule)
    (hr : rule ∈ rules settings) (redis : String → SlidingWindow) (reqs : List RateRequest) :
    ((serveAll settings redis reqs).2.filter fun p => countedUnder settings c rule p.1).map
        (fun p => (p.1.now, p.2.isForwarded)) =
      decisions (redis (keyOf c rule.pattern)) rule.limit rule.windowSeconds
        ((reqs.filter (countedUnder settings c rule)).map (·.now)) := by
  rw [serveAll_filter settings c rule hr, serveKey_decisions]

-- Noninterference between clients: two runs that give one client the same requests under a
-- rule, at the same times, give that client the same answers, with the same X-RateLimit-Limit,
-- X-RateLimit-Remaining and X-RateLimit-Reset headers and the same 429 bodies, whatever else the
-- other clients send and however it interleaves.
theorem rate_limit_isolates_clients (settings : RateSettings) (c : Client) (rule : RateLimitRule)
    (hr : rule ∈ rules settings) (redis : String → SlidingWindow) (reqs reqs' : List RateRequest)
    (hsame : reqs.filter (countedUnder settings c rule) = reqs'.filter (countedUnder settings c rule)) :
    (serveAll settings redis reqs).2.filter (fun p => countedUnder settings c rule p.1) =
      (serveAll settings redis reqs').2.filter (fun p => countedUnder settings c rule p.1) := by
  rw [serveAll_filter settings c rule hr, serveAll_filter settings c rule hr, hsame]

-- The sliding window's bound per client in the middleware: over any interleaving of every
-- client's requests at nondecreasing times, the requests of one client that a rule lets through
-- happen, in every window of the rule's length, at no more distinct instants than its limit.
theorem client_window_bound (settings : RateSettings) (hb : 0 ≤ settings.rateLimitPerUserBalance)
    (ht : 0 ≤ settings.rateLimitPerUserTransactions) (redis : String → SlidingWindow)
    (reqs : List RateRequest) (hsorted : (reqs.map (·.now)).Chain' (· ≤ ·)) (c : Client)
    (rule : RateLimitRule) (hr : rule ∈ rules settings) (t : ℚ) :
    ((((serveAll settings redis reqs).2.filter fun p => countedUnder settings c rule p.1 &&
        p.2.isForwarded && decide (t - rule.windowSeconds < p.1.now) && decide (p.1.now ≤ t)).map
          (·.1.now)).toFinset.card : Int) ≤ rule.limit := by
  have hl : 0 ≤ rule.limit := by
    simp only [rules, List.mem_cons, List.mem_singleton, List.not_mem_nil, or_false] at hr
    rcases hr with rfl | rfl <;> assumption
  have hW : 0 < rule.windowSeconds := by rw [rules_window hr]; decide
  have hs : ((reqs.filter (countedUnder settings c rule)).map (·.now)).Chain' (· ≤ ·) := by
    rw [List.chain'_iff_pairwise] at hsorted ⊢
    exact hsorted.sublist ((List.filter_sublist reqs).map _)
  have hbound := (allowed_instants_le rule.limit rule.windowSeconds hl hW (redis (keyOf c rule.pattern)) _ hs t).1
  rw [← serveAll_counted settings c rule hr redis reqs] at hbound
  -- the allowed calls of the projection are the client's requests let through
  convert hbound using 4
  simp only [allowedIn, List.filter_map, List.filter_filter, List.map_map, Function.comp_def]
  congr 1
  refine List.filter_congr fun p _ => ?_
  cases countedUnder settings c rule p.1 <;> simp [Bool.and_assoc]

-- Two addresses polling their balance, one request each per second.
def pollingClients : List RateRequest :=
  [0, 1, 2].flatMap fun i : ℚ =>
    [⟨"/api/v1/users/me/balance", "GET", none, some "10.0.0.1", i⟩,
     ⟨"/api/v1/users/me/balance", "GET", none, some "10.0.0.2", i⟩]

def balanceRule : RateLimitRule := ⟨"/api/v1/users/me/balance", "GET", 10, 60, "balance check"⟩

theorem client_window_bound_polling :
    0 ≤ RateSettings.defaults.rateLimitPerUserBalance ∧ 0 ≤ RateSettings.defaults.rateLimitPerUserTransactions ∧
    (pollingClients.map (·.now)).Chain' (· ≤ ·) ∧ balanceRule ∈ rules RateSettings.defaults ∧
    ((((serveAll RateSettings.defaults (fun _ => SlidingWindow.empty) pollingClients).2.filter fun p =>
        countedUnder RateSettings.defaults (.ip "10.0.0.1") balanceRule p.1 && p.2.isForwarded &&
          decide ((2 : ℚ) - balanceRule.windowSeconds < p.1.now) && decide (p.1.now ≤ 2)).map
          (·.1.now)).toFinset.card : Int) ≤ balanceRule.limit :=
  have hs : (pollingClients.map (·.now)).Chain' (· ≤ ·) := by norm_num [pollingClients]
  have hr : balanceRule ∈ rules RateSettings.defaults := List.mem_cons_self _ _
  ⟨by decide, by decide, hs, hr, client_window_bound RateSettings.defaults (by decide) (by decide)
    (fun _ => SlidingWindow.empty) pollingClients hs (.ip "10.0.0.1") balanceRule hr 2⟩

-- The first address's answers are the same with the second polling alongside or not.
theorem polling_clients_isolated :
    balanceRule ∈ rules RateSettings.defaults ∧
    pollingClients.filter (countedUnder RateSettings.defaults (.ip "10.0.0.1") balanceRule) =
      (pollingClients.filter fun q => q.clientHost == some "10.0.0.1").filter
        (countedUnder RateSettings.defaults (.ip "10.0.0.1") balanceRule) ∧
    (serveAll RateSettings.defaults (fun _ => SlidingWindow.empty) pollingClients).2.filter
        (fun p => countedUnder RateSettings.defaults (.ip "10.0.0.1") balanceRule p.1) =
      (serveAll RateSettings.defaults (fun _ => SlidingWindow.empty)
        (pollingClients.filter fun q => q.clientHost == some "10.0.0.1")).2.filter
          (fun p => countedUnder RateSettings.defaults (.ip "10.0.0.1") balanceRule p.1) :=
  have hr : balanceRule ∈ rules RateSettings.defaults := List.mem_cons_self _ _
  have hsame : pollingClients.filter (countedUnder RateSettings.defaults (.ip "10.0.0.1") balanceRule) =
      (pollingClients.filter fun q => q.clientHost == some "10.0.0.1").filter
        (countedUnder RateSettings.defaults (.ip "10.0.0.1") balanceRule) := rfl
  ⟨hr, hsame, rate_limit_isolates_clients _ _ _ hr _ _ _ hsame⟩

end PaymentGateway.Cache
