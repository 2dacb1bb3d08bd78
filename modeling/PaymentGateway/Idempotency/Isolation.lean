import PaymentGateway.Idempotency.Replay

namespace PaymentGateway.Idempotency

-- The client an action is for; an expiry is for no one.
def Action.client : Action → Option Nat
  | .send id _ | .op id _ => some id.client
  | .expire _ => none

namespace System

-- Two runs, one with client `a`'s requests and one without: they agree on every other client's
-- requests and on the value of every key outside `mine`, and in the first a request in flight
-- is `a`'s exactly when its key is in `mine`.
structure Agree (a : Nat) (mine : String → Prop) (s t : System) : Prop where
  requests : ∀ id : RequestId, id.client ≠ a → s.requests id = t.requests id
  cache : ∀ k, ¬ mine k → s.cache (getKey k) = t.cache (getKey k)
  keys : ∀ {id q}, s.requests id = some q → q.phase.answered = false → (id.client = a ↔ mine q.key)

section Agree

variable {a : Nat} {mine : String → Prop} {s t : System}

-- A call for a request in flight reads and writes only its own key.
theorem dispatch_some_unanswered {key : String} {entry : Option Entry} {p p' : Phase} {o : Op}
    {e : Option Entry} (h : dispatch key entry p o = some (p', e)) : p.answered = false := by
  cases hp : p.answered
  · rfl
  · rw [dispatch_answered hp] at h; cases h

theorem update_other {f : RequestId → Option Request} {id id' : RequestId} (v : Option Request)
    (h : id'.client ≠ id.client) : Function.update f id v id' = f id' :=
  Function.update_noteq (fun he => h (congrArg RequestId.client he)) _ _

-- A step of `a`'s leaves the other run alone.
theorem Agree.own (h : Agree a mine s t) {act : Action} (hc : act.client = some a)
    (hk : ∀ id header k, act = .send id header → presentKey header = some k → mine k) :
    Agree a mine (s.step act) t := by
  cases act with
  | expire k => cases hc
  | send id header =>
    cases hc
    rcases step_send_cases s id header with hs | ⟨-, hs⟩ <;> rw [hs]
    · exact h
    refine ⟨fun id' hid => ?_, h.cache, fun {id' q} hq ha => ?_⟩
    · exact (update_other _ hid).trans (h.requests id' hid)
    · rcases update_eq_some hq with ⟨rfl, rfl⟩ | ⟨-, hq⟩
      · exact iff_of_true rfl (hk _ _ _ rfl (Request.ofHeader_arrived header ha).1)
      · exact h.keys hq ha
  | op id o =>
    cases hc
    rcases step_op_cases s id o with hs | ⟨q, p, e, hq, hd, hs⟩ <;> rw [hs]
    · exact h
    have hmine := (h.keys hq (dispatch_some_unanswered hd)).1 rfl
    refine ⟨fun id' hid => ?_, fun k hk' => ?_, fun {id' q'} hq' ha => ?_⟩
    · exact (update_other _ hid).trans (h.requests id' hid)
    · simp only
      rw [update_getKey, if_neg fun (he : k = q.key) => hk' (he ▸ hmine)]
      exact h.cache k hk'
    · simp only at hq'
      rcases update_eq_some hq' with ⟨rfl, rfl⟩ | ⟨-, hq'⟩
      · exact iff_of_true rfl hmine
      · exact h.keys hq' ha

-- A step of another client's does the same in both runs.
theorem Agree.other (h : Agree a mine s t) {act : Action} {c : Nat} (hc : act.client = some c)
    (hca : c ≠ a) (hk : ∀ id header k, act = .send id header → presentKey header = some k → ¬ mine k) :
    Agree a mine (s.step act) (t.step act) := by
  cases act with
  | expire k => cases hc
  | send id header =>
    cases hc
    have ht := h.requests id hca
    cases hs : s.requests id with
    | some q => rw [step_send_some hs, step_send_some (ht ▸ hs)]; exact h
    | none =>
      rw [step_send hs, step_send (ht ▸ hs)]
      refine ⟨fun id' hid => ?_, h.cache, fun {id' q} hq ha => ?_⟩
      · simp only [Function.update_apply, h.requests id' hid]
      · rcases update_eq_some hq with ⟨rfl, rfl⟩ | ⟨-, hq⟩
        · have harr := Request.ofHeader_arrived header ha
          exact iff_of_false hca (hk _ _ _ rfl harr.1)
        · exact h.keys hq ha
  | op id o =>
    cases hc
    have ht := h.requests id hca
    cases hq : s.requests id with
    | none => rw [step_op_absent hq, step_op_absent (ht ▸ hq)]; exact h
    | some q =>
    -- the request is another client's, so both runs read the same value under its key
    have hsame : dispatch q.key (t.cache (getKey q.key)) q.phase o =
        dispatch q.key (s.cache (getKey q.key)) q.phase o := by
      cases ha : q.phase.answered
      · rw [h.cache _ fun hm => hca ((h.keys hq ha).2 hm)]
      · rw [dispatch_answered ha, dispatch_answered ha]
    cases hd : dispatch q.key (s.cache (getKey q.key)) q.phase o with
    | none => rw [step_op_none hq hd, step_op_none (ht ▸ hq) (hsame.trans hd)]; exact h
    | some pe =>
    obtain ⟨p, e⟩ := pe
    rw [step_op hq hd, step_op (ht ▸ hq) (hsame.trans hd)]
    have hmine : ¬ mine q.key := fun hm => hca ((h.keys hq (dispatch_some_unanswered hd)).2 hm)
    refine ⟨fun id' hid => ?_, fun k hk' => ?_, fun {id' q'} hq' ha => ?_⟩
    · simp only [Function.update_apply, h.requests id' hid]
    · simp only [update_getKey]
      split_ifs
      · rfl
      · exact h.cache k hk'
    · simp only at hq'
      rcases update_eq_some hq' with ⟨rfl, rfl⟩ | ⟨-, hq'⟩
      · exact iff_of_false hca hmine
      · exact h.keys hq' ha

theorem Agree.expire (h : Agree a mine s t) (k : String) :
    Agree a mine (s.step (.expire k)) (t.step (.expire k)) := by
  refine ⟨h.requests, fun k' hk' => ?_, h.keys⟩
  simp only [step, update_getKey]
  split_ifs
  · rfl
  · exact h.cache k' hk'

-- Over a run in which `a`'s requests carry keys in `mine` and the others' keys outside it.
theorem Agree.run (h : Agree a mine s t) {actions : List Action}
    (hk : ∀ id header k, .send id header ∈ actions → presentKey header = some k → (id.client = a ↔ mine k)) :
    Agree a mine (s.run actions) (t.run (actions.filter fun act => act.client != some a)) := by
  induction actions generalizing s t with
  | nil => exact h
  | cons act rest ih =>
    have hrest := fun id header k (hm : Action.send id header ∈ rest) => hk id header k (.tail _ hm)
    have hact : ∀ id header k, act = .send id header → presentKey header = some k → (id.client = a ↔ mine k) :=
      fun id header k he => hk id header k (he ▸ .head _)
    cases hc : act.client with
    | none =>
      cases act with
      | expire k => simpa [Action.client] using ih (h.expire k) hrest
      | send => cases hc
      | op => cases hc
    | some c =>
      by_cases hca : c = a
      · subst hca
        have := ih (h.own hc fun id header k he hp => (hact id header k he hp).1 (by cases he; cases hc; rfl)) hrest
        simpa [hc] using this
      · have := ih (h.other hc hca fun id header k he hp hm =>
          hca (by cases he; cases hc; exact (hact id header k rfl hp).2 hm)) hrest
        simpa [hc, hca] using this

end Agree

end System

open System

-- Isolation between clients that never share an Idempotency-Key: every request of a client other
-- than `a` (its key, its phase and its reply) is the same as in the run without `a`'s requests.
theorem replies_independent_of_other_clients (a : Nat) (actions : List Action)
    (hkeys : ∀ id header id' header' k, .send id header ∈ actions → .send id' header' ∈ actions →
      id.client = a → id'.client ≠ a → presentKey header = some k → presentKey header' ≠ some k)
    (id : RequestId) (hid : id.client ≠ a) :
    (System.init.run actions).requests id =
      (System.init.run (actions.filter fun act => act.client != some a)).requests id := by
  -- the keys `a` sends
  let mine k := ∃ id header, Action.send id header ∈ actions ∧ id.client = a ∧ presentKey header = some k
  have h₀ : Agree a mine System.init System.init := ⟨fun _ _ => rfl, fun _ _ => rfl, fun h => by cases h⟩
  refine (h₀.run fun id' header k hm hp => ⟨fun ha => ⟨id', header, hm, ha, hp⟩, ?_⟩).requests id hid
  rintro ⟨id'', header'', hm'', ha'', hp''⟩
  by_contra hne
  exact hkeys id'' header'' id' header k hm'' hm ha'' hne hp'' hp

-- The first client's request on "K" is saved while the second's on "L" is handled.
def separateKeys : List Action :=
  acceptedPre ++ [.op ⟨0, 0⟩ (.save false), .send ⟨1, 0⟩ (some "L"), .op ⟨1, 0⟩ (.acquire false)]

theorem replies_independent_of_other_clients_separate :
    (∀ id header id' header' k, .send id header ∈ separateKeys → .send id' header' ∈ separateKeys →
      id.client = 0 → id'.client ≠ 0 → presentKey header = some k → presentKey header' ≠ some k) ∧
    (⟨1, 0⟩ : RequestId).client ≠ 0 ∧
    (System.init.run separateKeys).requests ⟨1, 0⟩ =
      (System.init.run (separateKeys.filter fun act => act.client != some 0)).requests ⟨1, 0⟩ :=
  have hk : ∀ id header id' header' k, .send id header ∈ separateKeys →
      .send id' header' ∈ separateKeys → id.client = 0 → id'.client ≠ 0 →
      presentKey header = some k → presentKey header' ≠ some k := by
    intro id header id' header' k hm hm' ha ha' hp
    simp only [separateKeys, acceptedPre, List.cons_append, List.nil_append, List.mem_cons,
      Action.send.injEq, reduceCtorEq, List.mem_nil_iff, or_false, false_or] at hm hm'
    rcases hm with ⟨rfl, rfl⟩ | ⟨rfl, rfl⟩ <;> rcases hm' with ⟨rfl, rfl⟩ | ⟨rfl, rfl⟩ <;>
      simp_all [presentKey]
    subst hp; decide
  ⟨hk, by decide, replies_independent_of_other_clients 0 separateKeys hk ⟨1, 0⟩ (by decide)⟩

-- A second client sends the key the first used: it is served the first client's response,
-- where without the first client's requests it would have been handled.
def sharedKey : List Action :=
  acceptedPre ++ [.op ⟨0, 0⟩ (.save false),
    .send ⟨1, 0⟩ (some "K"), .op ⟨1, 0⟩ (.acquire false), .op ⟨1, 0⟩ (.check false)]

theorem shared_key_serves_other_client :
    ((System.init.run sharedKey).requests ⟨1, 0⟩).map Request.phase =
      some (.done (some { accepted with headers := accepted.headers ++ [(idempotencyHeader, "K")] })) ∧
    ((System.init.run (sharedKey.filter fun act => act.client != some 0)).requests ⟨1, 0⟩).map
      Request.phase = some .handling := by
  decide

end PaymentGateway.Idempotency
