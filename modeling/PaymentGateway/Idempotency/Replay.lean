import PaymentGateway.Idempotency.Middleware

namespace PaymentGateway.Idempotency

-- A request that does not hold a key with a COMPLETED record under it can only go on to the
-- check and be answered with the record, or with the exception of its own `acquire_lock` or
-- `check_existing`.
theorem dispatch_completed {key body : String} {code : Nat} {headers : List (String × String)}
    {p p' : Phase} {o : Op} {e : Option Entry}
    (h : dispatch key (some (.completed body code headers)) p o = some (p', e)) (hp : p.holds = false) :
    e = some (.completed body code headers) ∧
      (p' = .checking ∨ (p' = .done none ∧ (o = .acquire true ∨ o = .check true)) ∨
        p' = .done (some (replay key body code headers))) := by
  cases p <;> cases o <;> simp only [dispatch, Phase.holds] at h hp
  all_goals repeat' split at h
  all_goals first | (cases h; done) | (obtain ⟨rfl, rfl⟩ := Prod.mk.inj (Option.some.inj h))
  all_goals simp_all

namespace System

-- The lock the PROCESSING sentinel stands for: a request holding a key finds the sentinel under
-- it, no two requests hold one key, and a request still in flight has a key.
structure Locked (s : System) : Prop where
  sentinel : ∀ {id q}, s.requests id = some q → q.phase.holds → s.cache (getKey q.key) = some .processing
  unique : ∀ {id id' q q'}, s.requests id = some q → s.requests id' = some q' → q.key = q'.key →
    q.phase.holds → q'.phase.holds → id = id'
  keyed : ∀ {id q}, s.requests id = some q → q.phase.answered = false → q.key ≠ ""

theorem Locked.init : System.init.Locked where
  sentinel h := by cases h
  unique h := by cases h
  keyed h := by cases h

theorem Locked.send {s : System} (h : s.Locked) (id : RequestId) (header : Option String) :
    (s.step (.send id header)).Locked := by
  rcases step_send_cases s id header with hs | ⟨-, hs⟩ <;> rw [hs]
  · exact h
  have hn := Request.ofHeader_holds header
  refine ⟨fun hq hh => ?_, fun h₁ h₂ hk hh₁ hh₂ => ?_, fun hq ha => ?_⟩
  · rcases update_eq_some hq with ⟨-, rfl⟩ | ⟨-, hq⟩
    · rw [hn] at hh; cases hh
    · exact h.sentinel hq hh
  · rcases update_eq_some h₁ with ⟨-, rfl⟩ | ⟨-, h₁⟩
    · rw [hn] at hh₁; cases hh₁
    rcases update_eq_some h₂ with ⟨-, rfl⟩ | ⟨-, h₂⟩
    · rw [hn] at hh₂; cases hh₂
    · exact h.unique h₁ h₂ hk hh₁ hh₂
  · rcases update_eq_some hq with ⟨-, rfl⟩ | ⟨-, hq⟩
    · exact presentKey_ne (Request.ofHeader_arrived header ha).1
    · exact h.keyed hq ha

theorem Locked.op {s : System} (h : s.Locked) (id : RequestId) (o : Op) :
    (s.step (.op id o)).Locked := by
  rcases step_op_cases s id o with hs | ⟨q, p, e, hq, hd, hs⟩ <;> rw [hs]
  · exact h
  -- a call that leaves its request holding leaves the sentinel under the key
  have hold : p.holds → e = some .processing := fun hp => by
    cases hh : q.phase.holds
    · exact (dispatch_takes hd hh hp).2
    · rcases dispatch_holder hd hp with he | he
      · rw [he]; exact h.sentinel hq hh
      · rw [hh] at he; cases he
  -- while another request holds the key, the call neither takes it nor changes its value
  have other : ∀ {id' q'}, s.requests id' = some q' → id' ≠ id → q'.key = q.key → q'.phase.holds →
      e = some .processing ∧ p.holds = false := fun {id' q'} hq' hne hk hh' => by
    have hs := h.sentinel hq' hh'
    rw [hk] at hs
    have hh : q.phase.holds = false := by
      cases hh : q.phase.holds
      · rfl
      · exact absurd (h.unique hq' hq hk hh' hh) hne
    cases hp : p.holds
    · exact ⟨(dispatch_keeps hd hh hp).trans hs, rfl⟩
    · have := (dispatch_takes hd hh hp).1; rw [hs] at this; cases this
  refine ⟨fun {id' q'} hq' hh => ?_, fun {id₁ id₂ q₁ q₂} h₁ h₂ hk hh₁ hh₂ => ?_, fun {id' q'} hq' ha => ?_⟩
  · simp only at hq' ⊢
    rcases update_eq_some hq' with ⟨-, rfl⟩ | ⟨hne, hq'⟩
    · simpa using hold hh
    · rw [update_getKey]
      split_ifs with hk
      · exact (other hq' hne hk hh).1
      · exact h.sentinel hq' hh
  · simp only at h₁ h₂
    rcases update_eq_some h₁ with ⟨rfl, rfl⟩ | ⟨hne₁, hs₁⟩ <;>
      rcases update_eq_some h₂ with ⟨rfl, rfl⟩ | ⟨hne₂, hs₂⟩
    · rfl
    · exact absurd hh₁ (by rw [(other hs₂ hne₂ hk.symm hh₂).2]; decide)
    · exact absurd hh₂ (by rw [(other hs₁ hne₁ hk hh₁).2]; decide)
    · exact h.unique hs₁ hs₂ hk hh₁ hh₂
  · simp only at hq'
    rcases update_eq_some hq' with ⟨-, rfl⟩ | ⟨-, hq'⟩
    · cases hq_ans : q.phase.answered
      · exact (h.keyed hq hq_ans : q.key ≠ "")
      · rw [dispatch_answered hq_ans] at hd; cases hd
    · exact h.keyed hq' ha

theorem Locked.expire {s : System} (h : s.Locked) {k : String}
    (hk : ∀ id q, s.requests id = some q → q.key = k → q.phase.holds = false) :
    (s.step (.expire k)).Locked := by
  refine ⟨fun {id q} hq hh => ?_, h.unique, h.keyed⟩
  simp only [step] at hq ⊢
  rw [update_getKey, if_neg fun he => absurd hh (by rw [hk id q hq he]; decide)]
  exact h.sentinel hq hh

end System

-- An expiry hits only a key no request holds: every handler finishes within
-- `PROCESSING_LOCK_TTL`.
def Action.Fits (s : System) : Action → Prop
  | .expire k => ∀ id q, s.requests id = some q → q.key = k → q.phase.holds = false
  | _ => True

namespace System

def WithinTTL : System → List Action → Prop
  | _, [] => True
  | s, a :: rest => a.Fits s ∧ (s.step a).WithinTTL rest

theorem Locked.step {s : System} (h : s.Locked) (a : Action) (ha : a.Fits s) : (s.step a).Locked := by
  cases a with
  | send id header => exact h.send id header
  | op id o => exact h.op id o
  | expire k => exact h.expire ha

theorem Locked.run : ∀ {s : System} {actions : List Action}, s.Locked → s.WithinTTL actions →
    (s.run actions).Locked
  | _, [], h, _ => h
  | _, a :: _, h, ⟨ha, hw⟩ => (h.step a ha).run hw

-- Among `since`, the request's own `acquire_lock` or `check_existing` raised.
def Raised (id : RequestId) (since : List Action) : Prop :=
  Action.op id (.acquire true) ∈ since ∨ Action.op id (.check true) ∈ since

theorem Raised.append {id : RequestId} {since : List Action} (h : Raised id since) (more : List Action) :
    Raised id (since ++ more) :=
  h.imp (List.mem_append_left more) (List.mem_append_left more)

-- Once a response is saved under `key`, relative to the state `s₀` right after the save and the
-- actions `since` then: the record stays, no request holds the key, no handler is invoked for it,
-- and every request on it that was not answered at the save is waiting, or answered with the
-- record, or with the exception of its own cache call.
structure Replaying (key body : String) (code : Nat) (headers : List (String × String))
    (s₀ s : System) (since : List Action) : Prop where
  record : s.cache (getKey key) = some (.completed body code headers)
  free : ∀ {id q}, s.requests id = some q → q.key = key → q.phase.holds = false
  invoked : s.invoked.count key = s₀.invoked.count key
  replies : ∀ {id q}, s.requests id = some q → q.key = key →
    (∀ p, s₀.requests id = some p → p.phase.answered = false) →
    q.phase = .arrived ∨ q.phase = .checking ∨ (q.phase = .done none ∧ Raised id since) ∨
      q.phase = .done (some (replay key body code headers))

section Replaying

variable {key body : String} {code : Nat} {headers : List (String × String)} {s₀ : System}
  {since : List Action}

-- An action that answers no request with an exception keeps the earlier answers' reasons.
theorem Replaying.later {s : System} (h : Replaying key body code headers s₀ s since) (a : List Action) :
    Replaying key body code headers s₀ s (since ++ a) := by
  refine ⟨h.record, h.free, h.invoked, fun hq hk hp => ?_⟩
  rcases h.replies hq hk hp with h | h | ⟨h, hr⟩ | h
  exacts [.inl h, .inr (.inl h), .inr (.inr (.inl ⟨h, hr.append a⟩)), .inr (.inr (.inr h))]

theorem Replaying.send {s : System} (h : Replaying key body code headers s₀ s since) (hkey : key ≠ "")
    (id : RequestId) (header : Option String) :
    Replaying key body code headers s₀ (s.step (.send id header)) (since ++ [.send id header]) := by
  have h := h.later [.send id header]
  rcases step_send_cases s id header with hs | ⟨-, hs⟩ <;> rw [hs]
  · exact h
  refine ⟨h.record, fun hq hk => ?_, h.invoked, fun {id' q} hq hk hp => ?_⟩
  · rcases update_eq_some hq with ⟨-, rfl⟩ | ⟨-, hq⟩
    · exact Request.ofHeader_holds header
    · exact h.free hq hk
  · rcases update_eq_some hq with ⟨-, rfl⟩ | ⟨-, hq⟩
    · cases ha : (Request.ofHeader header).phase.answered
      · exact .inl (Request.ofHeader_arrived header ha).2
      · exact absurd (hk.symm.trans (Request.ofHeader_answered header ha)) hkey
    · exact h.replies hq hk hp

theorem Replaying.op {s : System} (h : Replaying key body code headers s₀ s since) (id : RequestId) (o : Op) :
    Replaying key body code headers s₀ (s.step (.op id o)) (since ++ [.op id o]) := by
  have h := h.later [.op id o]
  rcases step_op_cases s id o with hs | ⟨q, p, e, hq, hd, hs⟩ <;> rw [hs]
  · exact h
  by_cases hk : q.key = key
  · -- a request on the key goes on to the check and the cached reply, or its own call raised
    rw [hk, h.record] at hd
    obtain ⟨rfl, hp⟩ := dispatch_completed hd (h.free hq hk)
    have hnot : p ≠ .handling := by rcases hp with rfl | ⟨rfl, -⟩ | rfl <;> simp
    refine ⟨by simp only; rw [update_getKey, if_pos hk.symm], fun {id' q'} hq' hk' => ?_, by simp [hnot, h.invoked],
      fun {id' q'} hq' hk' hp₀ => ?_⟩
    · simp only at hq'
      rcases update_eq_some hq' with ⟨-, rfl⟩ | ⟨-, hq'⟩
      · rcases hp with rfl | ⟨rfl, -⟩ | rfl <;> rfl
      · exact h.free hq' hk'
    · simp only at hq'
      rcases update_eq_some hq' with ⟨rfl, rfl⟩ | ⟨-, hq'⟩
      · rcases hp with hp | ⟨hp, ho⟩ | hp
        · exact .inr (.inl hp)
        · -- the exception of this very call
          exact .inr (.inr (.inl ⟨hp, by rcases ho with rfl | rfl <;> simp [Raised]⟩))
        · exact .inr (.inr (.inr hp))
      · exact h.replies hq' hk' hp₀
  · -- a request on another key leaves this one's value and requests alone
    have hinv : (if p = .handling then s.invoked ++ [q.key] else s.invoked).count key = s.invoked.count key := by
      split_ifs
      · simp [List.count_singleton, Ne.symm hk]
      · rfl
    refine ⟨?_, fun {id' q'} hq' hk' => ?_, hinv.trans h.invoked, fun {id' q'} hq' hk' hp₀ => ?_⟩
    · simp only; rw [update_getKey, if_neg (Ne.symm hk)]; exact h.record
    all_goals
      simp only at hq'
      rcases update_eq_some hq' with ⟨-, rfl⟩ | ⟨-, hq'⟩
      · exact absurd hk' hk
    exacts [h.free hq' hk', h.replies hq' hk' hp₀]

theorem Replaying.expire {s : System} (h : Replaying key body code headers s₀ s since) {k : String}
    (hk : k ≠ key) : Replaying key body code headers s₀ (s.step (.expire k)) (since ++ [.expire k]) := by
  have h := h.later [.expire k]
  refine ⟨?_, h.free, h.invoked, h.replies⟩
  simp only [step]
  rw [update_getKey, if_neg (Ne.symm hk)]
  exact h.record

theorem Replaying.run {s : System} (h : Replaying key body code headers s₀ s since) (hkey : key ≠ "")
    {actions : List Action} (ha : ∀ a ∈ actions, a ≠ .expire key) :
    Replaying key body code headers s₀ (s.run actions) (since ++ actions) := by
  induction actions generalizing s since with
  | nil => simpa using h
  | cons a rest ih =>
    rw [← List.singleton_append, ← List.append_assoc]
    refine ih ?_ fun a' h' => ha a' (List.mem_cons_of_mem _ h')
    cases a with
    | send id header => exact h.send hkey id header
    | op id o => exact h.op id o
    | expire k => exact h.expire fun he => ha _ (List.mem_cons_self _ _) (by rw [he])

-- The save of a response by the key's holder starts the replay.
theorem Replaying.save {s : System} (h : s.Locked) {id : RequestId} {k : String} {r : Response}
    (hq : s.requests id = some ⟨k, .saving r⟩) {body : String} {code : Nat}
    {headers : List (String × String)} (he : savedEntry r = some (.completed body code headers)) :
    Replaying k body code headers (s.step (.op id (.save false))) (s.step (.op id (.save false))) [] := by
  have hd : dispatch k (s.cache (getKey k)) (.saving r) (.save false) =
      some (.done (some r), some (.completed body code headers)) := by
    simp [dispatch, he]
  rw [step_op hq hd]
  refine ⟨by simp, fun {id' q'} hq' hk => ?_, rfl, fun {id' q'} hq' hk hp => ?_⟩
  all_goals
    simp only at hq'
    rcases update_eq_some hq' with ⟨-, rfl⟩ | ⟨hne, hq'⟩
  · rfl
  · cases hh : q'.phase.holds
    · rfl
    · exact absurd (h.unique hq' hq hk hh rfl) hne
  · exact absurd (hp _ hq') (by simp [Phase.answered])
  · -- a request on the key, other than the holder, is not past the acquisition
    have hh : q'.phase.holds = false := by
      cases hh : q'.phase.holds
      · rfl
      · exact absurd (h.unique hq' hq hk hh rfl) hne
    have ha := hp q' (by simp [Function.update_noteq hne, hq'])
    cases hph : q'.phase <;> simp_all [Phase.holds, Phase.answered]

end Replaying

end System

open System

-- The endpoint's 202.
def accepted : Response :=
  ⟨202, jsonObject [("status", "PENDING")], [("content-type", "application/json")]⟩

-- A request on "K" is handled and answers 202; a second request on "K" arrives after the save.
def acceptedPre : List Action :=
  [.send ⟨0, 0⟩ (some "K"), .op ⟨0, 0⟩ (.acquire false), .op ⟨0, 0⟩ (.respond (some accepted))]

end PaymentGateway.Idempotency
