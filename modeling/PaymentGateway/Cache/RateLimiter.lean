import Mathlib.Algebra.Order.Field.Rat
import Mathlib.Data.Finset.Card
import Mathlib.Tactic.Linarith

namespace PaymentGateway.Cache

-- The sorted set under one rate-limit key. A member is `str(now)` with score `now`; `str` of a
-- float is one-to-one, so a member is its score and the set is a set of times. `expiresAt` is
-- the TTL `EXPIRE` gave the key, read against the callers' clock.
structure SlidingWindow where
  scores : Finset ℚ
  expiresAt : Option ℚ
  deriving DecidableEq

namespace SlidingWindow

def empty : SlidingWindow := ⟨∅, none⟩

-- The members a command sees at `now`: none once the key's TTL has run out.
def live (w : SlidingWindow) (now : ℚ) : Finset ℚ :=
  match w.expiresAt with
  | some t => if t < now then ∅ else w.scores
  | none => w.scores

-- `ZREMRANGEBYSCORE key lo hi`: the members scored in `[lo, hi]` are dropped.
def removeRange (scores : Finset ℚ) (lo hi : ℚ) : Finset ℚ := scores.filter fun s => ¬(lo ≤ s ∧ s ≤ hi)

theorem live_some (scores : Finset ℚ) (t now : ℚ) :
    (⟨scores, some t⟩ : SlidingWindow).live now = if t < now then ∅ else scores := rfl

theorem mem_removeRange {scores : Finset ℚ} {lo hi x : ℚ} :
    x ∈ removeRange scores lo hi ↔ x ∈ scores ∧ ¬(lo ≤ x ∧ x ≤ hi) := Finset.mem_filter

end SlidingWindow

-- The triple `is_allowed` returns: `(is_allowed, remaining, reset_timestamp)`.
structure Decision where
  allowed : Bool
  remaining : Int
  resetTimestamp : Int
  deriving DecidableEq

-- Python's `int()` of a float, toward zero.
def pyInt (q : ℚ) : Int := if q < 0 then q.ceil else q.floor

-- `RateLimiter.is_allowed` with `time.time() = now`; the pipeline runs as one transaction.
def isAllowed (w : SlidingWindow) (limit windowSeconds : Int) (now : ℚ) : SlidingWindow × Decision :=
  let windowStart := now - windowSeconds
  let kept := SlidingWindow.removeRange (w.live now) 0 windowStart
  let currentCount : Int := kept.card
  let allowed := decide (currentCount < limit)
  -- `ZADD` of the member `str(now)`, then `EXPIRE`, which deletes the key for a TTL that is not positive
  let w' : SlidingWindow :=
    if windowSeconds ≤ 0 then SlidingWindow.empty else ⟨insert now kept, some (now + windowSeconds)⟩
  (w', ⟨allowed, if allowed then max 0 (limit - currentCount - 1) else 0, pyInt (now + windowSeconds)⟩)

-- Calls of `is_allowed` on one key at the times given, with one limit and one window: each
-- call's time and whether it was allowed.
def decisions (w : SlidingWindow) (limit windowSeconds : Int) : List ℚ → List (ℚ × Bool)
  | [] => []
  | now :: rest =>
    let r := isAllowed w limit windowSeconds now
    (now, r.2.allowed) :: decisions r.1 limit windowSeconds rest

-- The times of the allowed calls in `(lo, hi]`.
def allowedIn (ds : List (ℚ × Bool)) (lo hi : ℚ) : List ℚ :=
  (ds.filter fun d => d.2 && decide (lo < d.1) && decide (d.1 ≤ hi)).map Prod.fst

theorem decisions_times (w : SlidingWindow) (limit windowSeconds : Int) (times : List ℚ) :
    (decisions w limit windowSeconds times).map Prod.fst = times := by
  induction times generalizing w with
  | nil => rfl
  | cons now rest ih => simp only [decisions, List.map_cons, ih]

theorem allowedIn_append (ds : List (ℚ × Bool)) (d : ℚ × Bool) (lo hi : ℚ) :
    allowedIn (ds ++ [d]) lo hi =
      allowedIn ds lo hi ++ if d.2 && decide (lo < d.1) && decide (d.1 ≤ hi) then [d.1] else [] := by
  unfold allowedIn
  rw [List.filter_append, List.map_append]
  split <;> simp_all

section Window

variable {limit W : Int} {w : SlidingWindow} {last : ℚ} {history : List (ℚ × Bool)}

-- What a run of calls up to time `last` leaves: every call of the last `W` seconds is still a
-- member at any later time, and no window `(t - W, t]` has more than `limit` allowed instants.
structure Tracks (limit W : Int) (w : SlidingWindow) (last : ℚ) (history : List (ℚ × Bool)) : Prop where
  before : ∀ d ∈ history, d.1 ≤ last
  recent : ∀ d ∈ history, ∀ v, last ≤ v → v - W < d.1 → d.1 ∈ SlidingWindow.removeRange (w.live v) 0 (v - W)
  bound : ∀ t, ((allowedIn history (t - W) t).toFinset.card : Int) ≤ limit

theorem Tracks.start (hl : 0 ≤ limit) (w : SlidingWindow) (last : ℚ) : Tracks limit W w last [] where
  before _ h := by cases h
  recent _ h := by cases h
  bound _ := by simpa [allowedIn] using hl

-- The members a call at `v` counts include every earlier call of the last `W` seconds.
theorem Tracks.counted (h : Tracks limit W w last history) {v : ℚ} (hv : last ≤ v) {t : ℚ}
    (hvt : v ≤ t) : (allowedIn history (t - W) t).toFinset ⊆
      SlidingWindow.removeRange (w.live v) 0 (v - W) := by
  intro τ hτ
  simp only [allowedIn, List.mem_toFinset, List.mem_map, List.mem_filter, Bool.and_eq_true,
    decide_eq_true_eq] at hτ
  obtain ⟨d, ⟨hd, ⟨-, hlo⟩, -⟩, rfl⟩ := hτ
  exact h.recent d hd v hv (by linarith)

theorem Tracks.step (h : Tracks limit W w last history) (hW : 0 < W) {v : ℚ} (hv : last ≤ v) :
    Tracks limit W (isAllowed w limit W v).1 v (history ++ [(v, (isAllowed w limit W v).2.allowed)]) := by
  have hW' : ¬W ≤ 0 := by omega
  have hWq : (0 : ℚ) < W := by exact_mod_cast hW
  simp only [isAllowed, if_neg hW']
  refine ⟨fun d hd => ?_, fun d hd u hu hdu => ?_, fun t => ?_⟩
  · rcases List.mem_append.mp hd with hd | hd
    · exact (h.before d hd).trans hv
    · rw [List.mem_singleton.mp hd]
  · -- the key's TTL has not run out, and the member is not in the range removed
    have hdv : d.1 ≤ v := by
      rcases List.mem_append.mp hd with hd | hd
      · exact (h.before d hd).trans hv
      · rw [List.mem_singleton.mp hd]
    have hlive : ¬v + W < u := by linarith
    rw [SlidingWindow.mem_removeRange, SlidingWindow.live_some, if_neg hlive, Finset.mem_insert]
    refine ⟨?_, fun hr => by linarith [hr.2]⟩
    rcases List.mem_append.mp hd with hd | hd
    · exact .inr (h.recent d hd v hv (by linarith))
    · exact .inl (by rw [List.mem_singleton.mp hd])
  · rw [allowedIn_append]
    split
    · -- an allowed call inside the window: the earlier ones were counted, and fewer than `limit`
      rename_i hin
      simp only [Bool.and_eq_true, decide_eq_true_eq] at hin
      obtain ⟨⟨hok, -⟩, hvt⟩ := hin
      have hsub := h.counted hv hvt
      calc _ ≤ ((insert v (SlidingWindow.removeRange (w.live v) 0 (v - W))).card : Int) := by
            refine Nat.cast_le.mpr (Finset.card_le_card fun x hx => ?_)
            rcases List.mem_append.mp (List.mem_toFinset.mp hx) with hx | hx
            · exact Finset.mem_insert_of_mem (hsub (List.mem_toFinset.mpr hx))
            · rw [List.mem_singleton.mp hx]
              exact Finset.mem_insert_self _ _
        _ ≤ (SlidingWindow.removeRange (w.live v) 0 (v - W)).card + 1 := by
            exact_mod_cast Finset.card_insert_le _ _
        _ ≤ limit := by omega
    · simpa using h.bound t

-- Over a run at nondecreasing times.
theorem Tracks.run (h : Tracks limit W w last history) (hW : 0 < W) (times : List ℚ)
    (hchain : times.Chain (· ≤ ·) last) (t : ℚ) :
    ((allowedIn (history ++ decisions w limit W times) (t - W) t).toFinset.card : Int) ≤ limit := by
  induction times generalizing w last history with
  | nil => simpa [decisions] using h.bound t
  | cons v rest ih =>
    obtain ⟨hv, hrest⟩ := List.chain_cons.mp hchain
    have := ih (h.step hW hv) hrest
    simpa [decisions] using this

end Window

-- The sliding window's bound, as the members make it: in every window `(t - W, t]` the calls
-- `is_allowed` lets through happen at no more than `limit` distinct instants; calls at one
-- instant share one member and are counted once. So when no two calls share an instant, at
-- most `limit` calls are allowed in any window.
theorem allowed_instants_le (limit W : Int) (hl : 0 ≤ limit) (hW : 0 < W) (w : SlidingWindow)
    (times : List ℚ) (hsorted : times.Chain' (· ≤ ·)) (t : ℚ) :
    ((allowedIn (decisions w limit W times) (t - W) t).toFinset.card : Int) ≤ limit ∧
    (times.Chain' (· < ·) → ((allowedIn (decisions w limit W times) (t - W) t).length : Int) ≤ limit) := by
  have hcard : ((allowedIn (decisions w limit W times) (t - W) t).toFinset.card : Int) ≤ limit := by
    cases times with
    | nil => simpa [decisions, allowedIn] using hl
    | cons v rest =>
      simpa using (Tracks.start hl w v).run hW (v :: rest) (List.Chain.cons (le_refl v) hsorted) t
  refine ⟨hcard, fun hlt => ?_⟩
  -- distinct times: the allowed ones are a sublist of them, with no repetition
  have hnodup : (allowedIn (decisions w limit W times) (t - W) t).Nodup := by
    have hsub : (allowedIn (decisions w limit W times) (t - W) t).Sublist times := by
      conv_rhs => rw [← decisions_times w limit W times]
      exact (List.filter_sublist _).map _
    exact hsub.nodup (List.chain'_iff_pairwise.mp hlt).nodup
  rwa [← List.toFinset_card_of_nodup hnodup]

-- Three calls at one instant against a limit of 2 in a 60 s window: the second and the third
-- count one member, the first's `str(now)`, which is also theirs, and all three are allowed.
theorem same_instant_calls_exceed_limit :
    decisions SlidingWindow.empty 2 60 [1000, 1000, 1000] = [(1000, true), (1000, true), (1000, true)] := by
  norm_num [decisions, isAllowed, SlidingWindow.empty, SlidingWindow.live, SlidingWindow.removeRange,
    Finset.filter_singleton]

end PaymentGateway.Cache
