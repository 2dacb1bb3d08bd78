import Mathlib.Data.List.Nodup
import Mathlib.Data.List.Infix

namespace PaymentGateway.Cache

-- `lock:<key>` as Redis stores it: the owner's `lock_identifier` and when its TTL runs out.
structure Lease where
  owner : String
  expiresAt : Int
  deriving DecidableEq, Repr

-- A `DistributedLock` or a `SyncDistributedLock` on the key: `lock_identifier`, `self.ttl`
-- (`min(ttl, 30)`) and `self.acquired`; `leaseUntil` is a history variable, the expiry the
-- instance's own latest successful SET NX or extend gave the value (the clock at creation, and
-- at an extend that deleted the value).
structure Instance where
  identifier : String
  ttl : Int
  acquired : Bool
  sync : Bool
  leaseUntil : Int
  deriving DecidableEq, Repr

-- The clock in seconds, the stored value and the instances.
structure LockStore where
  now : Int
  lease : Option Lease
  instances : List Instance
  deriving DecidableEq, Repr

-- `create`: the constructor, with the `uuid4` it draws. `tick`: time passes, and a value whose
-- TTL ran out is gone for every command after.
inductive LockAction
  | create (ttl : Int) (sync : Bool) (identifier : String)
  | acquire (index : Nat)
  | release (index : Nat)
  | extend (index : Nat) (additionalTtl : Int)
  | tick (seconds : Nat)
  deriving DecidableEq, Repr

namespace LockStore

def init : LockStore := ⟨0, none, []⟩

-- `GET lock:<key>`.
def current (s : LockStore) : Option String :=
  match s.lease with
  | some l => if s.now < l.expiresAt then some l.owner else none
  | none => none

-- `SET lock:<key> identifier NX EX ttl`: none where Redis rejects the expire time.
def setNx (s : LockStore) (identifier : String) (ttl : Int) : Option (Bool × LockStore) :=
  if ttl ≤ 0 then none
  else if s.current.isSome then some (false, s)
  else some (true, { s with lease := some ⟨identifier, s.now + ttl⟩ })

-- The Lua script of `release`: delete only our own value.
def releaseScript (s : LockStore) (identifier : String) : Bool × LockStore :=
  if s.current = some identifier then (true, { s with lease := none }) else (false, s)

-- The Lua script of `extend`: EXPIRE only our own value; a time that is not positive deletes it.
def extendScript (s : LockStore) (identifier : String) (additionalTtl : Int) : Bool × LockStore :=
  if s.current = some identifier then
    if additionalTtl ≤ 0 then (true, { s with lease := none })
    else (true, { s with lease := s.lease.map fun l => { l with expiresAt := s.now + additionalTtl } })
  else (false, s)

def setInstance (s : LockStore) (i : Nat) (inst : Instance) : LockStore :=
  { s with instances := s.instances.set i inst }

def step (s : LockStore) : LockAction → LockStore
  | .create ttl sync identifier =>
    { s with instances := s.instances ++ [⟨identifier, min ttl 30, false, sync, s.now⟩] }
  | .acquire i =>
    match s.instances[i]? with
    | none => s
    | some inst =>
      match s.setNx inst.identifier inst.ttl with
      -- `DistributedLock` lets the error out with `acquired` as it was; the sync lock catches it
      | none => if inst.sync then s.setInstance i { inst with acquired := false } else s
      | some (ok, s') =>
        s'.setInstance i { inst with
          acquired := ok, leaseUntil := if ok then s.now + inst.ttl else inst.leaseUntil }
  | .release i =>
    match s.instances[i]? with
    | none => s
    | some inst =>
      if inst.acquired then (s.releaseScript inst.identifier).2.setInstance i { inst with acquired := false }
      else s
  | .extend i additionalTtl =>
    match s.instances[i]? with
    | none => s
    -- `SyncDistributedLock` has no `extend`
    | some inst =>
      if inst.acquired && !inst.sync then
        if (s.extendScript inst.identifier additionalTtl).1 then
          (s.extendScript inst.identifier additionalTtl).2.setInstance i
            { inst with leaseUntil := s.now + max additionalTtl 0 }
        else s
      else s
  | .tick seconds => { s with now := s.now + seconds }

def run (s : LockStore) : List LockAction → LockStore
  | [] => s
  | a :: rest => (s.step a).run rest

@[simp] theorem setInstance_lease (s : LockStore) (i : Nat) (inst : Instance) :
    (s.setInstance i inst).lease = s.lease := rfl

@[simp] theorem setInstance_now (s : LockStore) (i : Nat) (inst : Instance) :
    (s.setInstance i inst).now = s.now := rfl

-- Only our own value is deleted.
theorem releaseScript_lease {s : LockStore} {identifier : String} (h : s.current ≠ some identifier) :
    (s.releaseScript identifier).2 = s := by
  simp [releaseScript, h]

theorem extendScript_lease {s : LockStore} {identifier : String} (h : s.current ≠ some identifier)
    (additionalTtl : Int) : s.extendScript identifier additionalTtl = (false, s) := by
  simp [extendScript, h]

theorem current_owner {s : LockStore} {v : String} (h : s.current = some v) : ∃ l, s.lease = some l ∧ l.owner = v := by
  unfold current at h
  split at h
  · split_ifs at h
    exact ⟨_, ‹_›, Option.some.inj h⟩
  · cases h

theorem current_of_lease {s : LockStore} {l : Lease} (h : s.lease = some l) (hl : s.now < l.expiresAt) :
    s.current = some l.owner := by
  simp [current, h, hl]

end LockStore

namespace LockStore

section Steps

variable {s : LockStore} {i j : Nat} {inst y : Instance}

theorem getElem?_set_of {l : List Instance} (hi : l[i]? = some inst) (y : Instance) (j : Nat) :
    (l.set i y)[j]? = if j = i then some y else l[j]? := by
  simp [List.getElem?_set, (List.getElem?_eq_some_iff.mp hi).1, eq_comm]

theorem getElem?_concat_eq_some {l : List Instance} {x : Instance} (h : (l ++ [x])[j]? = some y) :
    l[j]? = some y ∨ y = x := by
  rcases lt_or_le j l.length with hj | hj
  · exact .inl (by rwa [List.getElem?_append_left hj] at h)
  · rw [List.getElem?_append_right hj] at h
    rcases hk : j - l.length with _ | k <;> rw [hk] at h
    · exact .inr (by simpa using h.symm)
    · simp at h

-- What a step can do: nothing; move the clock; add an instance that holds nothing; clear an
-- instance's flag; or, for the instance `inst` at `i`, write the value: SET NX on a free key,
-- a delete of its own value, or an EXPIRE of its own value.
theorem step_cases (s : LockStore) (a : LockAction) :
    s.step a = s ∨
    (∃ k : Nat, s.step a = { s with now := s.now + k }) ∨
    (∃ x : Instance, x.acquired = false ∧ x.ttl ≤ 30 ∧
      s.step a = { s with instances := s.instances ++ [x] }) ∨
    (∃ (i : Nat) (inst : Instance), s.instances[i]? = some inst ∧
      s.step a = s.setInstance i { inst with acquired := false }) ∨
    (∃ (i : Nat) (inst : Instance), s.instances[i]? = some inst ∧ s.current = none ∧
      s.step a = { s with lease := some ⟨inst.identifier, s.now + inst.ttl⟩ }.setInstance i
        { inst with acquired := true, leaseUntil := s.now + inst.ttl }) ∨
    (∃ (i : Nat) (inst y : Instance), s.instances[i]? = some inst ∧ s.current = some inst.identifier ∧
      y.identifier = inst.identifier ∧ y.ttl = inst.ttl ∧ (y.acquired = true → y.leaseUntil ≤ s.now) ∧
      s.step a = { s with lease := none }.setInstance i y) ∨
    (∃ (i : Nat) (inst : Instance) (t : Int), a = .extend i t ∧ s.instances[i]? = some inst ∧
      s.current = some inst.identifier ∧
      0 < t ∧ s.step a = { s with lease := s.lease.map fun l : Lease => { l with expiresAt := s.now + t } }.setInstance
        i { inst with leaseUntil := s.now + t }) := by
  cases a with
  | create ttl sync identifier => exact .inr (.inr (.inl ⟨_, rfl, min_le_right _ _, rfl⟩))
  | tick k => exact .inr (.inl ⟨k, rfl⟩)
  | acquire i =>
    simp only [step]
    split
    · exact .inl rfl
    rename_i inst hi
    cases hn : s.setNx inst.identifier inst.ttl with
    | none => simp only; split; exacts [.inr (.inr (.inr (.inl ⟨i, inst, hi, rfl⟩))), .inl rfl]
    | some r =>
      unfold setNx at hn
      split_ifs at hn with h0 hc <;> cases hn
      · exact .inr (.inr (.inr (.inl ⟨i, inst, hi, rfl⟩)))
      · exact .inr (.inr (.inr (.inr (.inl ⟨i, inst, hi, Option.not_isSome_iff_eq_none.mp hc, rfl⟩))))
  | release i =>
    simp only [step]
    split
    · exact .inl rfl
    rename_i inst hi
    split
    · unfold releaseScript
      split_ifs with hc
      · exact .inr (.inr (.inr (.inr (.inr (.inl
          ⟨i, inst, { inst with acquired := false }, hi, hc, rfl, rfl, by simp, rfl⟩)))))
      · exact .inr (.inr (.inr (.inl ⟨i, inst, hi, rfl⟩)))
    · exact .inl rfl
  | extend i t =>
    simp only [step]
    split
    · exact .inl rfl
    rename_i inst hi
    split
    · by_cases hc : s.current = some inst.identifier
      · rcases le_or_lt t 0 with ht | ht
        · -- EXPIRE with a time that is not positive deletes the value
          have he : s.extendScript inst.identifier t = (true, { s with lease := none }) := by
            simp [extendScript, hc, ht]
          simp only [he, if_true]
          exact .inr (.inr (.inr (.inr (.inr (.inl ⟨i, inst, { inst with leaseUntil := s.now + max t 0 }, hi,
            hc, rfl, rfl, fun _ => by simp only [max_eq_right ht, Int.add_zero, le_refl], rfl⟩)))))
        · have he : s.extendScript inst.identifier t =
              (true, { s with lease := s.lease.map fun l => { l with expiresAt := s.now + t } }) := by
            simp [extendScript, hc, not_le.mpr ht]
          simp only [he, if_true]
          exact .inr (.inr (.inr (.inr (.inr (.inr ⟨i, inst, t, rfl, hi, hc, ht,
            by simp only [max_eq_left ht.le]⟩)))))
      · simp [extendScript_lease hc]
    · exact .inl rfl

theorem identifiers_set {l : List Instance} (hi : l[i]? = some inst) (y : Instance)
    (hy : y.identifier = inst.identifier) : (l.set i y).map Instance.identifier = l.map Instance.identifier := by
  obtain ⟨hlt, hget⟩ := List.getElem?_eq_some_iff.mp hi
  apply List.ext_getElem?
  intro j
  by_cases hij : j = i
  · subst hij; simp [List.getElem?_set, hlt, hget, hy]
  · simp [List.getElem?_set_ne (Ne.symm hij)]

-- A step keeps the identifiers there are and can only add one.
theorem identifiers_step (s : LockStore) (a : LockAction) :
    s.instances.map Instance.identifier <+: (s.step a).instances.map Instance.identifier := by
  rcases step_cases s a with h | ⟨k, h⟩ | ⟨x, -, -, h⟩ | ⟨i, inst, hi, h⟩ | ⟨i, inst, hi, -, h⟩ |
      ⟨i, inst, y, hi, -, hy, -, -, h⟩ | ⟨i, inst, t, -, hi, -, -, h⟩ <;> rw [h]
  · simp only [List.map_append]; exact List.prefix_append _ _
  all_goals
    show _ <+: (s.instances.set i _).map _
    rw [identifiers_set hi _ (by first | rfl | assumption)]

theorem identifiers_run (s : LockStore) (actions : List LockAction) :
    s.instances.map Instance.identifier <+: (s.run actions).instances.map Instance.identifier := by
  induction actions generalizing s with
  | nil => exact List.prefix_refl _
  | cons a rest ih => exact (identifiers_step s a).trans (ih _)

end Steps

-- Two instances with the same identifier are one, where identifiers are distinct.
theorem index_unique {l : List Instance} (hd : (l.map Instance.identifier).Nodup) {i j : Nat} {inst inst' : Instance}
    (hi : l[i]? = some inst) (hj : l[j]? = some inst') (h : inst.identifier = inst'.identifier) : i = j := by
  obtain ⟨hil, rfl⟩ := List.getElem?_eq_some_iff.mp hi
  obtain ⟨hjl, rfl⟩ := List.getElem?_eq_some_iff.mp hj
  exact (@List.Nodup.getElem_inj_iff _ _ hd i (by simpa using hil) j (by simpa using hjl)).mp
    (by simpa using h)

-- The fencing invariant. `written`: the stored value is an instance's identifier, with the
-- expiry that instance's own latest SET NX or extend gave it. `backed`: an acquired instance
-- whose own lease has not run out is what the key holds.
structure Fenced (s : LockStore) : Prop where
  written : ∀ l, s.lease = some l →
    ∃ (i : Nat) (inst : Instance), s.instances[i]? = some inst ∧ l = ⟨inst.identifier, inst.leaseUntil⟩
  backed : ∀ (i : Nat) (inst : Instance), s.instances[i]? = some inst → inst.acquired → s.now < inst.leaseUntil →
    s.lease = some ⟨inst.identifier, inst.leaseUntil⟩

section Fencing

variable {s : LockStore} {i : Nat} {inst : Instance}

theorem Fenced.init : LockStore.init.Fenced := ⟨fun _ h => (by cases h), fun _ _ h => (by cases h)⟩

-- An update of one instance that keeps its identifier and its lease history, and sets no flag.
theorem Fenced.setInstance (h : s.Fenced) (hi : s.instances[i]? = some inst) {y : Instance}
    (hid : y.identifier = inst.identifier) (hu : y.leaseUntil = inst.leaseUntil)
    (hacq : y.acquired → inst.acquired) : (s.setInstance i y).Fenced := by
  constructor
  · intro l hl
    obtain ⟨j, x, hj, rfl⟩ := h.written l hl
    by_cases hji : j = i
    · subst hji; cases hi.symm.trans hj
      exact ⟨j, y, by simp [LockStore.setInstance, getElem?_set_of hj], by rw [hid, hu]⟩
    · exact ⟨j, x, by simp only [LockStore.setInstance, getElem?_set_of hi, if_neg hji, hj], rfl⟩
  · intro j x hj hx hnow
    simp only [LockStore.setInstance, getElem?_set_of hi] at hj
    split_ifs at hj
    · cases hj; rw [hid, hu]; exact h.backed i inst hi (hacq hx) (hu ▸ hnow)
    · exact h.backed j x hj hx hnow

-- No other instance is backed while the value is `inst`'s and identifiers are distinct.
theorem Fenced.others (h : s.Fenced) (hd : (s.instances.map Instance.identifier).Nodup)
    (hi : s.instances[i]? = some inst) (hc : s.current = some inst.identifier) {j : Nat} {x : Instance}
    (hj : s.instances[j]? = some x) (hx : x.acquired) (hnow : s.now < x.leaseUntil) : j = i := by
  obtain ⟨l, hl, hown⟩ := current_owner hc
  rw [h.backed j x hj hx hnow, Option.some.injEq] at hl
  exact index_unique hd hj hi (by rw [← hown, ← hl])

theorem Fenced.step (h : s.Fenced) (hd : (s.instances.map Instance.identifier).Nodup) (a : LockAction) :
    (s.step a).Fenced := by
  rcases step_cases s a with he | ⟨k, he⟩ | ⟨x, hx, -, he⟩ | ⟨i, inst, hi, he⟩ | ⟨i, inst, hi, hc, he⟩ |
      ⟨i, inst, y, hi, hc, hid, -, hy, he⟩ | ⟨i, inst, t, -, hi, hc, ht, he⟩ <;> rw [he]
  · exact h
  · -- time passes: a lease ahead now was ahead before
    exact ⟨h.written, fun j x hj hx hnow =>
      h.backed j x hj hx (lt_of_le_of_lt (by omega : s.now ≤ s.now + k) hnow)⟩
  · refine ⟨fun l hl => ?_, fun j y hj hy hnow => ?_⟩
    · obtain ⟨j, y, hj, rfl⟩ := h.written l hl
      exact ⟨j, y, by rw [List.getElem?_append_left (List.getElem?_eq_some_iff.mp hj).1, hj], rfl⟩
    · rcases getElem?_concat_eq_some hj with hj | rfl
      · exact h.backed j y hj hy hnow
      · rw [hx] at hy; cases hy
  · exact h.setInstance hi rfl rfl fun hx => by cases hx
  · -- SET NX on a free key: no instance was backed, and now `inst` is
    have hfree : ∀ (j : Nat) (x : Instance), s.instances[j]? = some x → x.acquired → s.now < x.leaseUntil →
        False :=
      fun j x hj hx hnow => by
        have := current_of_lease (h.backed j x hj hx hnow) hnow
        rw [hc] at this; cases this
    refine ⟨fun l hl => ⟨i, { inst with acquired := true, leaseUntil := s.now + inst.ttl },
      by simp [LockStore.setInstance, getElem?_set_of hi], (Option.some.inj hl).symm⟩,
      fun j x hj hx hnow => ?_⟩
    simp only [LockStore.setInstance, getElem?_set_of hi] at hj
    split_ifs at hj
    · cases hj; rfl
    · exact (hfree j x hj hx hnow).elim
  · -- `inst` deletes its own value: no other instance was backed
    refine ⟨fun l hl => (by cases hl), fun j x hj hx hnow => ?_⟩
    simp only [LockStore.setInstance, getElem?_set_of hi] at hj
    split_ifs at hj with hji
    · cases hj; have := hy hx; simp only [setInstance_now] at hnow; omega
    · exact absurd (h.others hd hi hc hj hx hnow) hji
  · -- `inst` gives its own value a new expiry: no other instance was backed
    obtain ⟨l, hl, hown⟩ := current_owner hc
    have hnew : (s.lease.map fun l => { l with expiresAt := s.now + t }) = some ⟨inst.identifier, s.now + t⟩ := by
      simp [hl, hown]
    refine ⟨fun l' hl' => ⟨i, { inst with leaseUntil := s.now + t },
      by simp [LockStore.setInstance, getElem?_set_of hi], ?_⟩, fun j x hj hx hnow => ?_⟩
    · simp only [setInstance_lease, hnew, Option.some.injEq] at hl'
      exact hl'.symm
    · simp only [LockStore.setInstance, getElem?_set_of hi] at hj
      split_ifs at hj with hji
      · cases hj; exact hnew
      · exact absurd (h.others hd hi hc hj hx hnow) hji

theorem Fenced.run (h : s.Fenced) (actions : List LockAction)
    (hd : ((s.run actions).instances.map Instance.identifier).Nodup) : (s.run actions).Fenced := by
  induction actions generalizing s with
  | nil => exact h
  | cons a rest ih =>
    have hd' := hd.sublist ((identifiers_step s a).trans (identifiers_run _ rest)).sublist
    exact ih (h.step hd' a) hd

end Fencing

end LockStore

open LockStore

-- Fencing: along every run of instances with distinct identifiers, the value under
-- `lock:<key>` is an instance's identifier with the expiry that instance's own latest SET NX
-- or extend gave it; an acquired instance whose own lease has not run out holds the key; a
-- release or an extend by an instance whose identifier is not the value leaves the value and
-- its TTL as they are; and so two acquired instances with unexpired own leases are one.
theorem lock_fencing (actions : List LockAction)
    (hd : ((LockStore.init.run actions).instances.map Instance.identifier).Nodup) :
    (∀ l, (LockStore.init.run actions).lease = some l → ∃ (i : Nat) (inst : Instance),
      (LockStore.init.run actions).instances[i]? = some inst ∧ l = ⟨inst.identifier, inst.leaseUntil⟩) ∧
    (∀ (i : Nat) (inst : Instance), (LockStore.init.run actions).instances[i]? = some inst → inst.acquired →
      (LockStore.init.run actions).now < inst.leaseUntil →
      (LockStore.init.run actions).current = some inst.identifier) ∧
    (∀ (i : Nat) (inst : Instance), (LockStore.init.run actions).instances[i]? = some inst →
      (LockStore.init.run actions).current ≠ some inst.identifier →
      ((LockStore.init.run actions).step (.release i)).lease = (LockStore.init.run actions).lease ∧
      ∀ t, ((LockStore.init.run actions).step (.extend i t)).lease = (LockStore.init.run actions).lease) ∧
    (∀ (i j : Nat) (inst inst' : Instance), (LockStore.init.run actions).instances[i]? = some inst →
      (LockStore.init.run actions).instances[j]? = some inst' → inst.acquired → inst'.acquired →
      (LockStore.init.run actions).now < inst.leaseUntil → (LockStore.init.run actions).now < inst'.leaseUntil →
      i = j) := by
  set s := LockStore.init.run actions
  have hf : s.Fenced := Fenced.init.run actions hd
  refine ⟨hf.written, fun i inst hi hx hnow => current_of_lease (hf.backed i inst hi hx hnow) hnow,
    fun i inst hi hne => ?_, fun i j inst inst' hi hj hx hx' hnow hnow' => ?_⟩
  · simp only [step, hi, extendScript_lease hne]
    refine ⟨?_, fun t => by split_ifs <;> rfl⟩
    split_ifs
    · rw [setInstance_lease, releaseScript_lease hne]
    · rfl
  · -- both are backed by the one stored value
    have h := (hf.backed i inst hi hx hnow).symm.trans (hf.backed j inst' hj hx' hnow')
    exact index_unique hd hi hj (Lease.mk.inj (Option.some.inj h)).1

-- A takes the lock for 10 s, its lease runs out, and B takes it.
def lateRelease : List LockAction :=
  [.create 10 false "A", .create 10 true "B", .acquire 0, .tick 15, .acquire 1]

-- A's late release leaves B's lease.
example : ((LockStore.init.run lateRelease).step (.release 0)).current = some "B" := by decide

theorem lock_fencing_late_release :
    ((LockStore.init.run lateRelease).instances.map Instance.identifier).Nodup ∧
    (∀ l, (LockStore.init.run lateRelease).lease = some l → ∃ (i : Nat) (inst : Instance),
      (LockStore.init.run lateRelease).instances[i]? = some inst ∧ l = ⟨inst.identifier, inst.leaseUntil⟩) ∧
    (∀ (i : Nat) (inst : Instance), (LockStore.init.run lateRelease).instances[i]? = some inst → inst.acquired →
      (LockStore.init.run lateRelease).now < inst.leaseUntil →
      (LockStore.init.run lateRelease).current = some inst.identifier) ∧
    (∀ (i : Nat) (inst : Instance), (LockStore.init.run lateRelease).instances[i]? = some inst →
      (LockStore.init.run lateRelease).current ≠ some inst.identifier →
      ((LockStore.init.run lateRelease).step (.release i)).lease = (LockStore.init.run lateRelease).lease ∧
      ∀ t, ((LockStore.init.run lateRelease).step (.extend i t)).lease =
        (LockStore.init.run lateRelease).lease) ∧
    (∀ (i j : Nat) (inst inst' : Instance), (LockStore.init.run lateRelease).instances[i]? = some inst →
      (LockStore.init.run lateRelease).instances[j]? = some inst' → inst.acquired → inst'.acquired →
      (LockStore.init.run lateRelease).now < inst.leaseUntil →
      (LockStore.init.run lateRelease).now < inst'.leaseUntil → i = j) :=
  have hd : ((LockStore.init.run lateRelease).instances.map Instance.identifier).Nodup := by decide
  ⟨hd, lock_fencing lateRelease hd⟩

namespace LockStore

-- The TTLs a lease can get: an instance's `min(ttl, 30)` through SET NX, or an extend's
-- `additional_ttl` through EXPIRE; time only runs forward.
structure TtlWithin (bound : Int) (s : LockStore) : Prop where
  instances : ∀ inst ∈ s.instances, inst.ttl ≤ 30
  lease : ∀ l, s.lease = some l → l.expiresAt - s.now ≤ bound

section Ttl

variable {bound : Int} {s : LockStore}

theorem TtlWithin.init : LockStore.init.TtlWithin bound where
  instances _ h := by cases h
  lease _ h := by cases h

theorem ttl_set {l : List Instance} (h : ∀ x ∈ l, x.ttl ≤ 30) {i : Nat} {y : Instance} (hy : y.ttl ≤ 30) :
    ∀ x ∈ l.set i y, x.ttl ≤ 30 :=
  fun x hx => (List.mem_or_eq_of_mem_set hx).elim (h x) fun he => he ▸ hy

theorem TtlWithin.step (hb : 30 ≤ bound) (h : s.TtlWithin bound) (a : LockAction)
    (ha : ∀ i t, a = .extend i t → t ≤ bound) : (s.step a).TtlWithin bound := by
  have httl : ∀ {i : Nat} {inst : Instance}, s.instances[i]? = some inst → inst.ttl ≤ 30 :=
    fun hi => h.instances _ (List.getElem?_mem hi)
  rcases step_cases s a with he | ⟨k, he⟩ | ⟨x, -, hx, he⟩ | ⟨i, inst, hi, he⟩ | ⟨i, inst, hi, -, he⟩ |
      ⟨i, inst, y, hi, -, -, hy, -, he⟩ | ⟨i, inst, t, rfl, hi, -, -, he⟩ <;> rw [he]
  · exact h
  · exact ⟨h.instances, fun l hl => by have := h.lease l hl; simp only; omega⟩
  · refine ⟨fun inst hi => ?_, h.lease⟩
    rcases List.mem_append.mp hi with hi | hi
    · exact h.instances inst hi
    · rw [List.mem_singleton.mp hi]; exact hx
  · exact ⟨ttl_set h.instances (httl hi : inst.ttl ≤ 30), h.lease⟩
  · -- SET NX writes the lease with the instance's own TTL
    refine ⟨ttl_set h.instances (httl hi : inst.ttl ≤ 30), fun l hl => ?_⟩
    simp only [setInstance_lease, Option.some.injEq] at hl
    subst hl
    have := httl hi
    simp only [setInstance_now]
    omega
  · exact ⟨ttl_set h.instances (hy ▸ httl hi), fun l hl => (by cases hl)⟩
  · refine ⟨ttl_set h.instances (httl hi : inst.ttl ≤ 30), fun l hl => ?_⟩
    obtain ⟨l', -, rfl⟩ := Option.map_eq_some'.mp hl
    have := ha i t rfl
    simp only [setInstance_now]
    omega

theorem TtlWithin.run (hb : 30 ≤ bound) (h : s.TtlWithin bound) (actions : List LockAction)
    (ha : ∀ i t, LockAction.extend i t ∈ actions → t ≤ bound) : (s.run actions).TtlWithin bound := by
  induction actions generalizing s with
  | nil => exact h
  | cons a rest ih =>
    exact ih (h.step hb a fun i t he => ha i t (he ▸ .head _)) fun i t hm => ha i t (.tail _ hm)

end Ttl

end LockStore

-- Whatever `bound ≥ 30` every `additional_ttl` stays under, the value under `lock:<key>` never
-- has more than `bound` seconds to live. The constructor caps `ttl` at 30, but `extend` passes
-- its argument to EXPIRE as it is, so the 30 s cap holds only for extends of at most 30 s.
theorem remaining_ttl_le (bound : Int) (hb : 30 ≤ bound) (actions : List LockAction)
    (ha : ∀ i t, LockAction.extend i t ∈ actions → t ≤ bound) (l : Lease)
    (hl : (LockStore.init.run actions).lease = some l) :
    l.expiresAt - (LockStore.init.run actions).now ≤ bound :=
  (TtlWithin.init.run hb actions ha).lease l hl

-- A lock taken with the default 10 s and extended by 60 s.
def longExtend : List LockAction := [.create 10 false "A", .acquire 0, .extend 0 60]

theorem extend_exceeds_ttl_cap :
    (LockStore.init.run longExtend).instances.map Instance.ttl = [10] ∧
    (LockStore.init.run longExtend).current = some "A" ∧
    ((LockStore.init.run longExtend).lease.map fun l => l.expiresAt - (LockStore.init.run longExtend).now) =
      some 60 := by
  decide

theorem long_extend_within_bound :
    (30 : Int) ≤ 60 ∧ (∀ i t, LockAction.extend i t ∈ longExtend → t ≤ 60) ∧
    (LockStore.init.run longExtend).lease = some ⟨"A", 60⟩ ∧
    (⟨"A", 60⟩ : Lease).expiresAt - (LockStore.init.run longExtend).now ≤ 60 :=
  have ha : ∀ i t, LockAction.extend i t ∈ longExtend → t ≤ 60 := by
    intro i t h
    simp only [longExtend, List.mem_cons, reduceCtorEq, LockAction.extend.injEq, List.not_mem_nil,
      false_or, or_false] at h
    omega
  have hl : (LockStore.init.run longExtend).lease = some ⟨"A", 60⟩ := by decide
  ⟨by decide, ha, hl, remaining_ttl_le 60 (by decide) longExtend ha _ hl⟩

end PaymentGateway.Cache
