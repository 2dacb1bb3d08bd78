import Mathlib.Data.Nat.Digits
import PaymentGateway.Api.Access

namespace PaymentGateway.Api

open PaymentGateway.Ledger

-- The rows registration and login touch: the read endpoints' view, the ids of the `users` rows
-- in the order a query returns them, and each user's `hashed_password`.
structure Registry where
  read : ReadDb
  userIds : List Nat
  hashes : Nat → Option String

-- Modelled from the spec: `UserRepository.get_by_email`, whose module is not in the sources;
-- the first `users` row with this email.
def getByEmail (g : Registry) (email : String) : Option (Nat × UserRecord) :=
  (g.userIds.filterMap fun i => (g.read.users i).map (i, ·)).find? (·.2.email == email)

-- A registration with what the server draws for it: the salted hash `get_password_hash` returns,
-- and the `uuid4` ids of the new `users` and `accounts` rows.
structure RegisterRequest where
  email : String
  fullName : String
  webhookUrl : Option String
  hashedPassword : String
  userId : Nat
  accountId : Nat
  deriving DecidableEq, Repr

-- The rows `register_user` adds: an active user, and an account of theirs with a zero balance.
def addUser (g : Registry) (req : RegisterRequest) : Registry :=
  { read :=
      { users := Function.update g.read.users req.userId (some ⟨req.email, req.fullName, true⟩)
        accountIds := g.read.accountIds ++ [req.accountId]
        db := { g.read.db with
          users := Function.update g.read.db.users req.userId (some ⟨req.webhookUrl⟩)
          accounts := Function.update g.read.db.accounts req.accountId (some ⟨req.userId, 0⟩) } }
    userIds := g.userIds ++ [req.userId]
    hashes := Function.update g.hashes req.userId (some req.hashedPassword) }

-- The INSERTs of `register_user` and its commit. The database refuses them with an
-- `IntegrityError` when a row breaks a key: `users.id`, the unique `users.email`, `accounts.id`
-- or the unique `accounts.user_id`.
def insertUser (g : Registry) (req : RegisterRequest) : Option Registry :=
  if (g.read.users req.userId).isSome || (getByEmail g req.email).isSome ||
      (g.read.db.accounts req.accountId).isSome || (accountOfUser g.read req.userId).isSome then none
  else some (addUser g req)

-- `register`'s answer to the `ValueError` of `register_user`.
def emailExists (email : String) : HttpError := ⟨400, "User with email " ++ email ++ " already exists"⟩

-- `general_exception_handler`'s answer, here to an `IntegrityError`.
def unexpectedError : HttpError := ⟨500, "An unexpected error occurred"⟩

-- `settings.jwt_access_token_expire_minutes`.
def jwtAccessTokenExpireMinutes : Int := 30

-- The claims of a token `create_access_token` signs, times in seconds: `sub` is `str(user.id)`,
-- then the user's `email`, and `exp`.
structure AccessToken where
  sub : String
  email : String
  exp : Int
  deriving DecidableEq, Repr

-- `AuthService.create_token` at time `now`: `exp` is the configured minutes later.
def createToken (userId : Nat) (email : String) (now : Int) : AccessToken :=
  ⟨toString userId, email, now + jwtAccessTokenExpireMinutes * 60⟩

-- `decode_access_token` at time `now`, of a token the server signed: `jwt.decode` raises
-- `ExpiredSignatureError` once `exp < now`, and the function answers `None`; else the payload,
-- of which `get_current_user` reads `sub`.
def decodeAccessToken (now : Int) (t : AccessToken) : Option (Option String) :=
  if t.exp < now then none else some (some t.sub)

theorem decodeAccessToken_of_le {now : Int} {t : AccessToken} (h : now ≤ t.exp) :
    decodeAccessToken now t = some (some t.sub) := if_neg (not_lt.mpr h)

theorem decodeAccessToken_of_lt {now : Int} {t : AccessToken} (h : t.exp < now) :
    decodeAccessToken now t = none := if_pos h

-- Registrations served concurrently: each in flight has run its `get_by_email` and waits to
-- commit. A reply is the token `create_token` made, or the error.
structure Registrations where
  g : Registry
  inFlight : List RegisterRequest
  replies : List (RegisterRequest × Except HttpError AccessToken)

-- A registration's `get_by_email`, or the commit of the `i`-th in flight at time `now`.
inductive RegAction
  | check (req : RegisterRequest)
  | commit (i : Nat) (now : Int)
  deriving DecidableEq, Repr

namespace Registrations

def step (s : Registrations) : RegAction → Registrations
  | .check req =>
    match getByEmail s.g req.email with
    | some _ => { s with replies := s.replies ++ [(req, .error (emailExists req.email))] }
    | none => { s with inFlight := s.inFlight ++ [req] }
  | .commit i now =>
    match s.inFlight[i]? with
    | none => s
    | some req =>
      match insertUser s.g req with
      | none => { s with inFlight := s.inFlight.eraseIdx i, replies := s.replies ++ [(req, .error unexpectedError)] }
      | some g => ⟨g, s.inFlight.eraseIdx i, s.replies ++ [(req, .ok (createToken req.userId req.email now))]⟩

def run (s : Registrations) : List RegAction → Registrations
  | [] => s
  | a :: rest => (s.step a).run rest

-- No users, accounts or transactions yet.
def empty : Registrations :=
  ⟨⟨⟨fun _ => none, [], ⟨fun _ => none, fun _ => none, fun _ => none, [], [], 0, []⟩⟩, [], fun _ => none⟩,
    [], []⟩

end Registrations

-- `AuthService.authenticate`, with `verify_password` as `verify`.
def authenticate (verify : String → String → Bool) (g : Registry) (email password : String) :
    Option (Nat × UserRecord) :=
  match getByEmail g email with
  | none => none
  | some (i, u) =>
    if !u.isActive then none
    else if verify password ((g.hashes i).getD "") then some (i, u) else none

-- `login` at time `now`: a new token, or 401.
def login (verify : String → String → Bool) (g : Registry) (email password : String) (now : Int) :
    Except HttpError AccessToken :=
  match authenticate verify g email password with
  | none => .error ⟨401, "Incorrect email or password"⟩
  | some (i, u) => .ok (createToken i u.email now)

/-! The token's `sub` claim: `create_token` writes `str(user.id)`, `get_current_user` reads it back. -/

theorem digitChar_digit : ∀ d < 10, (Nat.digitChar d).isDigit = true ∧ (Nat.digitChar d).toNat - '0'.toNat = d := by
  decide

theorem toDigitsCore_append (fuel n : Nat) (ds : List Char) :
    Nat.toDigitsCore 10 fuel n ds = Nat.toDigitsCore 10 fuel n [] ++ ds := by
  induction fuel generalizing n ds with
  | zero => rfl
  | succ fuel ih =>
    simp only [Nat.toDigitsCore]
    split
    · rfl
    · rw [ih _ (_ :: ds), ih _ [_]]; simp

-- With enough fuel the digits are a nonempty decimal numeral of `n`.
theorem toDigitsCore_numeral (fuel n : Nat) (h : n < fuel) :
    Nat.toDigitsCore 10 fuel n [] ≠ [] ∧ (Nat.toDigitsCore 10 fuel n []).all Char.isDigit ∧
      (Nat.toDigitsCore 10 fuel n []).foldl digitValue 0 = n := by
  induction fuel generalizing n with
  | zero => omega
  | succ fuel ih =>
    have hd := digitChar_digit (n % 10) (Nat.mod_lt _ (by decide))
    simp only [Nat.toDigitsCore]
    split
    · simpa [digitValue, Nat.mod_eq_of_lt (show n < 10 by omega)] using hd
    · -- the leading digits, then the last one
      obtain ⟨-, hall, hval⟩ := ih (n / 10) (by omega)
      rw [toDigitsCore_append]
      refine ⟨by simp, by simp [hall, hd.1], ?_⟩
      rw [List.foldl_append, hval]
      simp only [List.foldl_cons, List.foldl_nil, digitValue, hd.2]
      omega

theorem parseUserId_toString (n : Nat) : parseUserId (toString n) = some n := by
  obtain ⟨hne, hall, hval⟩ := toDigitsCore_numeral (n + 1) n (Nat.lt_succ_self n)
  have hdata : (toString n).data = Nat.toDigitsCore 10 (n + 1) n [] := rfl
  unfold parseUserId
  rw [hdata, if_pos ⟨hne, hall⟩, hval]

/-! The registry's invariant: what the keys of `users` and `accounts` and `register_user`'s one
commit keep. -/

structure Registry.Wf (g : Registry) : Prop where
  listed : ∀ i u, g.read.users i = some u → i ∈ g.userIds
  emailInj : ∀ i j u v, g.read.users i = some u → g.read.users j = some v → u.email = v.email → i = j
  accountListed : ∀ a acc, g.read.db.accounts a = some acc → a ∈ g.read.accountIds
  owner : ∀ a acc, g.read.db.accounts a = some acc → (g.read.users acc.userId).isSome
  hasAccount : ∀ i u, g.read.users i = some u → ∃ a acc, g.read.db.accounts a = some acc ∧ acc.userId = i
  accountInj : ∀ a b acc acc', g.read.db.accounts a = some acc → g.read.db.accounts b = some acc' →
    acc.userId = acc'.userId → a = b

section Lookups

variable {g : Registry}

theorem getByEmail_some {email : String} {p : Nat × UserRecord} (h : getByEmail g email = some p) :
    g.read.users p.1 = some p.2 ∧ p.2.email = email := by
  have hmem := List.mem_of_find?_eq_some h
  have hid := List.find?_some h
  simp only [List.mem_filterMap, Option.map_eq_some'] at hmem
  obtain ⟨_, -, _, hu, rfl⟩ := hmem
  exact ⟨hu, by simpa using hid⟩

theorem getByEmail_none {email : String} (h : getByEmail g email = none) {i : Nat} {u : UserRecord}
    (hl : i ∈ g.userIds) (hu : g.read.users i = some u) : u.email ≠ email := by
  have hmem : (i, u) ∈ g.userIds.filterMap fun i => (g.read.users i).map (i, ·) :=
    List.mem_filterMap.mpr ⟨i, hl, by simp [hu]⟩
  simpa using List.find?_eq_none.mp h _ hmem

theorem accountOfUser_none {r : ReadDb} {uid : Nat} (h : accountOfUser r uid = none) {a : Nat}
    {acc : Account} (hl : a ∈ r.accountIds) (hacc : r.db.accounts a = some acc) : acc.userId ≠ uid := by
  have hmem : (a, acc) ∈ r.accountIds.filterMap fun a => (r.db.accounts a).map (a, ·) :=
    List.mem_filterMap.mpr ⟨a, hl, by simp [hacc]⟩
  simpa using List.find?_eq_none.mp h _ hmem

variable (hw : g.Wf)
include hw

-- `get_by_email` finds each user by their own email.
theorem Registry.Wf.getByEmail_eq {i : Nat} {u : UserRecord} (hu : g.read.users i = some u) :
    getByEmail g u.email = some (i, u) := by
  cases h : getByEmail g u.email with
  | none => exact absurd rfl (getByEmail_none h (hw.listed i u hu) hu)
  | some p =>
    obtain ⟨hp, he⟩ := getByEmail_some h
    obtain rfl := hw.emailInj _ _ _ _ hp hu he
    rw [hu] at hp
    cases hp
    rfl

-- `get_current_user_account` finds each user's one account.
theorem Registry.Wf.accountOfUser_eq {i : Nat} {u : UserRecord} (hu : g.read.users i = some u) :
    ∃ a acc, accountOfUser g.read i = some (a, acc) ∧ acc.userId = i ∧
      ∀ b acc', g.read.db.accounts b = some acc' → acc'.userId = i → b = a := by
  obtain ⟨a, acc, hacc, hai⟩ := hw.hasAccount i u hu
  cases h : accountOfUser g.read i with
  | none => exact absurd hai (accountOfUser_none h (hw.accountListed a acc hacc) hacc)
  | some p =>
    obtain ⟨hp, hpi⟩ := accountOfUser_some h
    exact ⟨p.1, p.2, rfl, hpi, fun b acc' hb hbi => hw.accountInj b p.1 acc' p.2 hb hp (hbi.trans hpi.symm)⟩

end Lookups

section Update

variable {β κ : Type} {f : Nat → Option β} {x : Nat} {v : β}

-- A row inserted under id `x` is listed once `x` is appended.
theorem update_listed {l : List Nat} (h : ∀ i u, f i = some u → i ∈ l) :
    ∀ i u, Function.update f x (some v) i = some u → i ∈ l ++ [x] := fun i u hu => by
  by_cases hi : i = x
  · simp [hi]
  · rw [Function.update_noteq hi] at hu
    exact List.mem_append_left _ (h i u hu)

-- Keys stay distinct when a row goes in whose key no other row has.
theorem update_keys_inj {key : β → κ} (hinj : ∀ i j u w, f i = some u → f j = some w → key u = key w → i = j)
    (hnew : ∀ j w, f j = some w → key w ≠ key v) :
    ∀ i j u w, Function.update f x (some v) i = some u → Function.update f x (some v) j = some w →
      key u = key w → i = j := fun i j u w hu hw he => by
  by_cases hi : i = x <;> by_cases hj : j = x
  · exact hi.trans hj.symm
  · rw [hi, Function.update_same, Option.some.injEq] at hu
    rw [Function.update_noteq hj] at hw
    exact absurd (hu ▸ he).symm (hnew j w hw)
  · rw [hj, Function.update_same, Option.some.injEq] at hw
    rw [Function.update_noteq hi] at hu
    exact absurd (hw ▸ he) (hnew i u hu)
  · rw [Function.update_noteq hi] at hu
    rw [Function.update_noteq hj] at hw
    exact hinj i j u w hu hw he

end Update

section Insert

variable {g : Registry} {req : RegisterRequest}

theorem insertUser_some {g' : Registry} (h : insertUser g req = some g') :
    g.read.users req.userId = none ∧ getByEmail g req.email = none ∧
      g.read.db.accounts req.accountId = none ∧ g' = addUser g req := by
  unfold insertUser at h
  split at h
  · cases h
  · rename_i hfree
    simp only [Bool.or_eq_true, Option.isSome_iff_ne_none, ne_eq, not_or, not_not] at hfree
    cases h
    exact ⟨hfree.1.1.1, hfree.1.1.2, hfree.1.2, rfl⟩

section Fresh

variable (hfree : g.read.users req.userId = none)
include hfree

-- The rows of other users stay as they were.
theorem addUser_users_of {i : Nat} {u : UserRecord} (hu : g.read.users i = some u) :
    (addUser g req).read.users i = some u := by
  have hne : i ≠ req.userId := fun he => by rw [he, hfree] at hu; cases hu
  simpa [addUser, Function.update_noteq hne] using hu

theorem addUser_hashes_of {i : Nat} {u : UserRecord} (hu : g.read.users i = some u) :
    (addUser g req).hashes i = g.hashes i := by
  have hne : i ≠ req.userId := fun he => by rw [he, hfree] at hu; cases hu
  simp [addUser, Function.update_noteq hne]

variable (hw : g.Wf)
include hw

-- No account is of the new user yet.
theorem addUser_no_account {a : Nat} {acc : Account} (hacc : g.read.db.accounts a = some acc) :
    acc.userId ≠ req.userId := fun he => by
  have := hw.owner a acc hacc
  rw [he, hfree] at this
  cases this

theorem Registry.Wf.add (hemail : getByEmail g req.email = none)
    (hacc : g.read.db.accounts req.accountId = none) : (addUser g req).Wf where
  listed := update_listed hw.listed
  -- a new user's email is no old user's: `get_by_email` found none, or the index refused it
  emailInj := update_keys_inj hw.emailInj fun j v hj => getByEmail_none hemail (hw.listed j v hj) hj
  accountListed := update_listed hw.accountListed
  owner a acc h := by
    by_cases ha : a = req.accountId
    · simp only [addUser, ha, Function.update_same, Option.some.injEq] at h
      simp [addUser, ← h]
    · simp only [addUser, Function.update_noteq ha] at h
      obtain ⟨u, hu⟩ := Option.isSome_iff_exists.mp (hw.owner a acc h)
      simp [addUser_users_of hfree hu]
  hasAccount i u hu := by
    by_cases hi : i = req.userId
    · exact ⟨req.accountId, ⟨req.userId, 0⟩, by simp [addUser], hi.symm⟩
    · simp only [addUser, Function.update_noteq hi] at hu
      obtain ⟨a, acc, h, hai⟩ := hw.hasAccount i u hu
      have ha : a ≠ req.accountId := fun he => by rw [he, hacc] at h; cases h
      exact ⟨a, acc, by simpa [addUser, Function.update_noteq ha] using h, hai⟩
  -- the new account's user has no other account
  accountInj := update_keys_inj hw.accountInj fun _ _ hb => addUser_no_account hfree hw hb

end Fresh

end Insert

/-! Runs of concurrent registrations. -/

namespace Registrations

-- Every token issued was made for the user its registration inserted, still as inserted.
def Issued (s : Registrations) : Prop :=
  ∀ req tok, (req, .ok tok) ∈ s.replies → (∃ issued, tok = createToken req.userId req.email issued) ∧
    s.g.read.users req.userId = some ⟨req.email, req.fullName, true⟩ ∧
    s.g.hashes req.userId = some req.hashedPassword

def Inv (s : Registrations) : Prop := s.g.Wf ∧ s.Issued

section Steps

variable {s : Registrations}

-- A reply that is not a token leaves `Issued` as it is.
theorem Issued.error (h : s.Issued) (req : RegisterRequest) (e : HttpError) (inFlight : List RegisterRequest) :
    Issued { s with inFlight := inFlight, replies := s.replies ++ [(req, .error e)] } := fun req' tok hm => by
  rcases List.mem_append.mp hm with hm | hm
  · exact h req' tok hm
  · simp at hm

theorem Inv.step (h : s.Inv) (a : RegAction) : (s.step a).Inv := by
  cases a with
  | check req =>
    simp only [Registrations.step]
    split
    · exact ⟨h.1, h.2.error req _ s.inFlight⟩
    · exact h
  | commit i now =>
    simp only [Registrations.step]
    split
    · exact h
    · rename_i req _
      split
      · exact ⟨h.1, h.2.error req _ _⟩
      · rename_i g' hins
        obtain ⟨hfree, hemail, hacc, rfl⟩ := insertUser_some hins
        refine ⟨h.1.add hfree hemail hacc, fun req' tok hm => ?_⟩
        rcases List.mem_append.mp hm with hm | hm
        · -- an earlier token: its user is not the new one
          obtain ⟨htok, hu, hh⟩ := h.2 req' tok hm
          exact ⟨htok, addUser_users_of hfree hu, (addUser_hashes_of hfree hu).trans hh⟩
        · simp only [List.mem_singleton, Prod.mk.injEq, Except.ok.injEq] at hm
          obtain ⟨rfl, rfl⟩ := hm
          exact ⟨⟨now, rfl⟩, by simp [addUser]⟩

theorem Inv.run (h : s.Inv) (actions : List RegAction) : (s.run actions).Inv := by
  induction actions generalizing s with
  | nil => exact h
  | cons a rest ih => exact ih (h.step a)

theorem empty_inv : empty.Inv :=
  ⟨⟨fun _ _ h => (by cases h), fun _ _ _ _ h => (by cases h), fun _ _ h => (by cases h),
    fun _ _ h => (by cases h), fun _ _ h => (by cases h), fun _ _ _ _ h => (by cases h)⟩, fun _ _ h => (by cases h)⟩

end Steps

end Registrations

-- Over any interleaving of concurrent registrations: `get_by_email` finds each user by their
-- email, so no two users share one, and each user has exactly one account, the one
-- `get_current_user_account` finds. The email check of `register_user` races with the other
-- registrations; the unique index on `users.email` refuses what it lets through.
theorem registered_users_distinct (actions : List RegAction) (i : Nat) (u : UserRecord)
    (hu : (Registrations.empty.run actions).g.read.users i = some u) :
    getByEmail (Registrations.empty.run actions).g u.email = some (i, u) ∧
    ∃ a acc, getCurrentUserAccount (Registrations.empty.run actions).g.read i = .ok (a, acc) ∧
      ∀ b acc', (Registrations.empty.run actions).g.read.db.accounts b = some acc' → acc'.userId = i → b = a := by
  have hw := (Registrations.empty_inv.run actions).1
  obtain ⟨a, acc, ha, -, huniq⟩ := hw.accountOfUser_eq hu
  exact ⟨hw.getByEmail_eq hu, a, acc, by simp [getCurrentUserAccount, ha], huniq⟩

-- Two clients registering the same email concurrently: both pass `get_by_email`.
def sameEmailRace : List RegAction :=
  [.check ⟨"user@example.com", "Test User", none, "hash-1", 0, 0⟩,
   .check ⟨"user@example.com", "Test User", none, "hash-2", 1, 1⟩, .commit 0 1000, .commit 0 1001]

theorem same_email_race_one_user :
    (Registrations.empty.run sameEmailRace).g.read.users 0 = some ⟨"user@example.com", "Test User", true⟩ ∧
    getByEmail (Registrations.empty.run sameEmailRace).g "user@example.com" =
      some (0, ⟨"user@example.com", "Test User", true⟩) ∧
    ∃ a acc, getCurrentUserAccount (Registrations.empty.run sameEmailRace).g.read 0 = .ok (a, acc) ∧
      ∀ b acc', (Registrations.empty.run sameEmailRace).g.read.db.accounts b = some acc' → acc'.userId = 0 → b = a :=
  have hu : (Registrations.empty.run sameEmailRace).g.read.users 0 =
      some ⟨"user@example.com", "Test User", true⟩ := rfl
  ⟨hu, registered_users_distinct sameEmailRace 0 _ hu⟩

-- Every token `register` has issued, up to its `exp` thirty minutes on, names in every later state
-- of any interleaving an active user that `get_current_user` resolves, and whose account
-- `get_current_user_account` finds; once `exp` has passed it is refused. At any time `login`
-- answers that user's email, for every password `verify_password` accepts against the hash
-- stored at registration, with a new token for the same user.
theorem issued_tokens_authenticate (verify : String → String → Bool) (actions : List RegAction)
    (req : RegisterRequest) (tok : AccessToken) (h : (req, .ok tok) ∈ (Registrations.empty.run actions).replies) :
    (∃ issued, tok = createToken req.userId req.email issued) ∧
    (∀ now, now ≤ tok.exp → getCurrentUser (Registrations.empty.run actions).g.read (decodeAccessToken now tok) =
      .ok (req.userId, ⟨req.email, req.fullName, true⟩)) ∧
    (∀ now, tok.exp < now → getCurrentUser (Registrations.empty.run actions).g.read (decodeAccessToken now tok) =
      .error ⟨401, "Invalid authentication credentials"⟩) ∧
    (∃ a acc, getCurrentUserAccount (Registrations.empty.run actions).g.read req.userId = .ok (a, acc)) ∧
    ∀ password now, verify password req.hashedPassword = true →
      login verify (Registrations.empty.run actions).g req.email password now =
        .ok (createToken req.userId req.email now) := by
  obtain ⟨hw, hissued⟩ := Registrations.empty_inv.run actions
  obtain ⟨⟨issued, rfl⟩, hu, hh⟩ := hissued req tok h
  obtain ⟨a, acc, ha, -⟩ := hw.accountOfUser_eq hu
  refine ⟨⟨issued, rfl⟩, fun now hnow => ?_, fun now hnow => ?_, ⟨a, acc, by simp [getCurrentUserAccount, ha]⟩,
    fun password now hv => ?_⟩
  · rw [decodeAccessToken_of_le hnow]
    simp [getCurrentUser, createToken, parseUserId_toString, hu]
  · rw [decodeAccessToken_of_lt hnow]
    rfl
  · simp [login, authenticate, hw.getByEmail_eq hu, hh, hv]

theorem race_winner_logs_in :
    (⟨"user@example.com", "Test User", none, "hash-1", 0, 0⟩, .ok ⟨"0", "user@example.com", 2800⟩) ∈
      (Registrations.empty.run sameEmailRace).replies ∧
    (∃ issued, (⟨"0", "user@example.com", 2800⟩ : AccessToken) = createToken 0 "user@example.com" issued) ∧
    (∀ now, now ≤ 2800 → getCurrentUser (Registrations.empty.run sameEmailRace).g.read
      (decodeAccessToken now ⟨"0", "user@example.com", 2800⟩) = .ok (0, ⟨"user@example.com", "Test User", true⟩)) ∧
    (∀ now, 2800 < now → getCurrentUser (Registrations.empty.run sameEmailRace).g.read
      (decodeAccessToken now ⟨"0", "user@example.com", 2800⟩) = .error ⟨401, "Invalid authentication credentials"⟩) ∧
    (∃ a acc, getCurrentUserAccount (Registrations.empty.run sameEmailRace).g.read 0 = .ok (a, acc)) ∧
    ∀ password now, (fun p h => p ++ "-hashed" == h) password "hash-1" = true →
      login (fun p h => p ++ "-hashed" == h) (Registrations.empty.run sameEmailRace).g "user@example.com" password now =
        .ok (createToken 0 "user@example.com" now) :=
  have hm : (⟨"user@example.com", "Test User", none, "hash-1", 0, 0⟩, .ok ⟨"0", "user@example.com", 2800⟩) ∈
      (Registrations.empty.run sameEmailRace).replies := by
    have hr : (Registrations.empty.run sameEmailRace).replies =
        [(⟨"user@example.com", "Test User", none, "hash-1", 0, 0⟩, .ok ⟨"0", "user@example.com", 2800⟩),
         (⟨"user@example.com", "Test User", none, "hash-2", 1, 1⟩, .error unexpectedError)] := rfl
    rw [hr]
    exact List.mem_cons_self _ _
  ⟨hm, issued_tokens_authenticate _ sameEmailRace _ _ hm⟩

end PaymentGateway.Api
