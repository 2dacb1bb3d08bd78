import Mathlib.Algebra.Order.Field.Rat
import Mathlib.Tactic.Linarith
import Mathlib.Tactic.NormNum
import Mathlib.Tactic.Positivity
import Mathlib.Tactic.Ring
import PaymentGateway.Ledger.Balance

namespace PaymentGateway.Api

open PaymentGateway.Ledger

-- `DECIMAL_PLACES` and `MAX_DIGITS`: the scale and the precision of `transactions.amount`.
def decimalPlaces : Nat := 2

def maxDigits : Nat := 18

-- A finite `Decimal` as `as_tuple()` shows it: the sign, the digits read as one number, and
-- the exponent.
structure Decimal where
  negative : Bool
  coefficient : Nat
  exponent : Int
  deriving DecidableEq, Repr

namespace Decimal

def toRat (d : Decimal) : ℚ := (if d.negative then -1 else 1) * d.coefficient * 10 ^ d.exponent

-- `len(str(n))`, counted by dividing by ten (`fuel` bounds the divisions).
def numDigitsAux : Nat → Nat → Nat
  | 0, _ => 1
  | fuel + 1, n => if n < 10 then 1 else numDigitsAux fuel (n / 10) + 1

def numDigits (n : Nat) : Nat := numDigitsAux n n

-- `getcontext().prec` of the default context.
def contextPrecision : Nat := 28

-- Rounding to the context's precision, half to even, as `normalize()` does first.
def roundToContext (d : Decimal) : Decimal :=
  let n := numDigits d.coefficient
  if n ≤ contextPrecision then d
  else
    let k := n - contextPrecision
    let q := d.coefficient / 10 ^ k
    let r := d.coefficient % 10 ^ k
    let half := 5 * 10 ^ (k - 1)
    let q' := if half < r ∨ (r = half ∧ q % 2 = 1) then q + 1 else q
    -- a carry out of `9...9` makes one digit too many, which is dropped again
    if q' = 10 ^ contextPrecision then ⟨d.negative, q' / 10, d.exponent + k + 1⟩
    else ⟨d.negative, q', d.exponent + k⟩

-- The trailing zeros of the digits, stripped one at a time (at most `fuel` of them).
def stripZeros : Nat → Nat → Int → Nat × Int
  | 0, c, e => (c, e)
  | fuel + 1, c, e => if c ≠ 0 ∧ c % 10 = 0 then stripZeros fuel (c / 10) (e + 1) else (c, e)

-- `Decimal.normalize()`: rounded to the context, trailing zeros stripped, zero as `0E0`.
def normalize (d : Decimal) : Decimal :=
  let r := roundToContext d
  if r.coefficient = 0 then ⟨r.negative, 0, 0⟩
  else
    let s := stripZeros (numDigits r.coefficient) r.coefficient r.exponent
    ⟨r.negative, s.1, s.2⟩

-- The decimal places pydantic counts: those of the normalized value.
def decimals (d : Decimal) : Nat := (-(normalize d).exponent).toNat

end Decimal

-- `TransactionBase.amount`, `Field(..., gt=0, decimal_places=2)`: pydantic-core counts the
-- places of the normalized value, then checks the bound, and hands back the value as given.
def validateAmount (d : Decimal) : Except String Decimal :=
  if decimalPlaces < d.decimals then .error "Decimal input should have no more than 2 decimal places"
  else if d.negative || d.coefficient = 0 then .error "Input should be greater than 0"
  else .ok d

def numericFieldOverflow : Error := ⟨.DatabaseError, "numeric field overflow"⟩

-- A value in units of `10 ^ -scale`, its magnitude rounded half away from zero, as PostgreSQL
-- rounds it to a column's scale.
def numericRound (scale : Nat) (d : Decimal) : Nat :=
  let shift := d.exponent + scale
  if 0 ≤ shift then d.coefficient * 10 ^ shift.toNat
  else
    let k := (-shift).toNat
    d.coefficient / 10 ^ k + if 5 * 10 ^ (k - 1) ≤ d.coefficient % 10 ^ k then 1 else 0

-- How PostgreSQL stores a value in a `Numeric(precision, scale)` column: rounded to `scale`
-- places, and refused with `numeric field overflow` when it needs more than
-- `precision - scale` integer digits.
def numericStore (precision scale : Nat) (d : Decimal) : Except Error Int :=
  let magnitude := numericRound scale d
  if 10 ^ precision ≤ magnitude then .error numericFieldOverflow
  else .ok (if d.negative then -(magnitude : Int) else magnitude)

-- The INSERT of `create_pending_deposit` / `create_pending_withdrawal` with the amount as the
-- request carries it: PostgreSQL coerces it to the column's type before the check constraint.
def insertPendingAmount (f : Faults) (accountId : Nat) (transactionType : TransactionType)
    (amount : Decimal) (currency : String) (idempotencyKey celeryTaskId : Option String)
    (db : Db) : Outcome :=
  match numericStore maxDigits decimalPlaces amount with
  | .error e => (db, some e)
  | .ok stored => insertPending f accountId transactionType stored currency idempotencyKey celeryTaskId db

def createPendingDepositAmount (f : Faults) (accountId : Nat) (amount : Decimal) (currency : String)
    (idempotencyKey celeryTaskId : Option String) (db : Db) : Outcome :=
  match db.accounts accountId with
  | none => (db, some (accountNotFound accountId))
  | some _ => insertPendingAmount f accountId .Deposit amount currency idempotencyKey celeryTaskId db

namespace Decimal

theorem numDigitsAux_le : ∀ (fuel n k : Nat), n < 10 ^ (k + 1) → numDigitsAux fuel n ≤ k + 1
  | 0, _, _, _ => by simp [numDigitsAux]
  | fuel + 1, n, k, h => by
    unfold numDigitsAux
    split
    · omega
    · -- a number of two digits or more loses one to the division
      cases k with
      | zero => simp at h; omega
      | succ k =>
        have := numDigitsAux_le fuel (n / 10) k (by rw [Nat.div_lt_iff_lt_mul (by norm_num), ← Nat.pow_succ]; exact h)
        omega

-- Up to 28 digits, the context leaves a value as it is.
theorem roundToContext_of_lt {d : Decimal} (h : d.coefficient < 10 ^ contextPrecision) :
    roundToContext d = d := by
  have := numDigitsAux_le d.coefficient d.coefficient 27 h
  simp only [roundToContext, numDigits, contextPrecision] at this ⊢
  rw [if_pos this]

-- Stripping zeros divides the digits by a power of ten and raises the exponent by as much.
theorem stripZeros_spec : ∀ (fuel c : Nat) (e : Int),
    ∃ j : Nat, (stripZeros fuel c e).2 = e + j ∧ c = (stripZeros fuel c e).1 * 10 ^ j
  | 0, c, e => ⟨0, by simp [stripZeros]⟩
  | fuel + 1, c, e => by
    unfold stripZeros
    split
    · rename_i h
      obtain ⟨j, he, hc⟩ := stripZeros_spec fuel (c / 10) (e + 1)
      refine ⟨j + 1, by rw [he]; push_cast; ring, ?_⟩
      rw [pow_succ, ← mul_assoc, ← hc, Nat.div_mul_cancel (Nat.dvd_of_mod_eq_zero h.2)]
    · exact ⟨0, by simp⟩

theorem normalize_spec {d : Decimal} (h : d.coefficient < 10 ^ contextPrecision) (hc : d.coefficient ≠ 0) :
    ∃ j : Nat, (normalize d).exponent = d.exponent + j ∧ d.coefficient = (normalize d).coefficient * 10 ^ j := by
  simp only [normalize, roundToContext_of_lt h, if_neg hc]
  exact stripZeros_spec _ _ _

end Decimal

-- What the schema lets through: a positive value whose normalized form has at most two places.
theorem validateAmount_ok {d : Decimal} (h : validateAmount d = .ok d) :
    d.negative = false ∧ d.coefficient ≠ 0 ∧ d.decimals ≤ decimalPlaces := by
  unfold validateAmount at h
  split at h
  · cases h
  split at h
  · cases h
  rename_i h₁ h₂
  simp only [Bool.or_eq_true, decide_eq_true_eq, not_or, Bool.not_eq_true] at h₂
  exact ⟨h₂.1, h₂.2, by omega⟩

section Store

variable {d : Decimal} {c' j : Nat}

-- When the digits carry at least `scale` places' worth of trailing zeros, the rounding drops
-- only zeros: the magnitude is the digits scaled to the column.
theorem numericRound_of_places (scale : Nat) (hd : d.coefficient = c' * 10 ^ j)
    (hp : 0 ≤ d.exponent + j + scale) : numericRound scale d = c' * 10 ^ (d.exponent + j + scale).toNat := by
  simp only [numericRound]
  split
  · rw [hd, mul_assoc, ← pow_add]
    congr 2
    omega
  · -- `10 ^ k` divides the digits, so nothing is rounded away
    obtain ⟨i, hi⟩ : ∃ i, j = (-(d.exponent + scale)).toNat + i := ⟨j - (-(d.exponent + scale)).toNat, by omega⟩
    have hk : 0 < 5 * 10 ^ ((-(d.exponent + scale)).toNat - 1) := by positivity
    rw [hd, hi, pow_add, mul_comm (10 ^ _) (10 ^ i), ← mul_assoc, Nat.mul_div_cancel _ (by positivity),
      Nat.mul_mod_left, if_neg (by omega), add_zero]
    congr 2
    omega

theorem scaled_value (e : Int) (scale : Nat) (hp : 0 ≤ e + j + scale) :
    ((c' * 10 ^ (e + j + scale).toNat : Nat) : ℚ) = ((c' * 10 ^ j : Nat) : ℚ) * 10 ^ e * 10 ^ scale := by
  have h10 : (10 : ℚ) ≠ 0 := by norm_num
  have hz : (((e + j + scale).toNat : Nat) : Int) = j + e + scale := by omega
  push_cast
  rw [← zpow_natCast (10 : ℚ) (e + j + scale).toNat, hz, zpow_add₀ h10, zpow_add₀ h10, zpow_natCast,
    zpow_natCast]
  ring

end Store

-- An amount the schema accepts, of at most 28 significant digits and below 10^16, is stored as
-- it is: the column holds its value in hundredths, and that value is positive.
theorem stored_exactly {d : Decimal} (hv : validateAmount d = .ok d)
    (hc : d.coefficient < 10 ^ Decimal.contextPrecision) (hlt : d.toRat < 10 ^ (maxDigits - decimalPlaces)) :
    ∃ c : Int, numericStore maxDigits decimalPlaces d = .ok c ∧ 0 < c ∧ (c : ℚ) = d.toRat * 10 ^ decimalPlaces := by
  obtain ⟨hneg, hnz, hplaces⟩ := validateAmount_ok hv
  obtain ⟨j, he, hd⟩ := Decimal.normalize_spec hc hnz
  have hp : 0 ≤ d.exponent + j + decimalPlaces := by
    simp only [Decimal.decimals, decimalPlaces] at hplaces ⊢
    omega
  have hval := @scaled_value (Decimal.normalize d).coefficient j d.exponent decimalPlaces hp
  rw [← hd] at hval
  have hrat : d.toRat = d.coefficient * 10 ^ d.exponent := by simp [Decimal.toRat, hneg]
  set m := (Decimal.normalize d).coefficient * 10 ^ (d.exponent + j + decimalPlaces).toNat
  -- the value in hundredths is below 10^18
  have hm : m < 10 ^ maxDigits := by
    have : (m : ℚ) < 10 ^ maxDigits := by
      rw [hval, ← hrat]
      calc d.toRat * 10 ^ decimalPlaces < 10 ^ (maxDigits - decimalPlaces) * 10 ^ decimalPlaces :=
            mul_lt_mul_of_pos_right hlt (by norm_num)
        _ = 10 ^ maxDigits := by norm_num [maxDigits, decimalPlaces]
    exact_mod_cast this
  have hpos : 0 < m := by
    have : 0 < d.coefficient := Nat.pos_of_ne_zero hnz
    rw [hd] at this
    exact Nat.mul_pos (Nat.pos_of_mul_pos_right this) (by positivity)
  refine ⟨m, ?_, by exact_mod_cast hpos, ?_⟩
  · unfold numericStore
    rw [numericRound_of_places decimalPlaces hd hp, if_neg (by omega), hneg]
    rfl
  · rw [hrat]
    exact_mod_cast hval

-- "50.00".
def fiftyAmount : Decimal := ⟨false, 5000, -2⟩

theorem fifty_stored_exactly :
    validateAmount fiftyAmount = .ok fiftyAmount ∧ fiftyAmount.coefficient < 10 ^ Decimal.contextPrecision ∧
    fiftyAmount.toRat < 10 ^ (maxDigits - decimalPlaces) ∧
    ∃ c : Int, numericStore maxDigits decimalPlaces fiftyAmount = .ok c ∧ 0 < c ∧
      (c : ℚ) = fiftyAmount.toRat * 10 ^ decimalPlaces :=
  have hv : validateAmount fiftyAmount = .ok fiftyAmount := rfl
  have hc : fiftyAmount.coefficient < 10 ^ Decimal.contextPrecision := by decide
  have hlt : fiftyAmount.toRat < 10 ^ (maxDigits - decimalPlaces) := by
    norm_num [fiftyAmount, Decimal.toRat, maxDigits, decimalPlaces]
  ⟨hv, hc, hlt, stored_exactly hv hc hlt⟩

-- Past 28 digits `normalize()` rounds before pydantic counts the places:
-- 1.0000000000000000000000000001 passes the schema, and the column stores 1.00.
example : validateAmount ⟨false, 10 ^ 28 + 1, -28⟩ = .ok ⟨false, 10 ^ 28 + 1, -28⟩ ∧
    numericStore maxDigits decimalPlaces ⟨false, 10 ^ 28 + 1, -28⟩ = .ok 100 := ⟨rfl, rfl⟩

-- "10000000000000000.00": positive, two places, and 10^16.
def hugeAmount : Decimal := ⟨false, 10 ^ 18, -2⟩

theorem huge_deposit_overflows :
    validateAmount hugeAmount = .ok hugeAmount ∧
    numericStore maxDigits decimalPlaces hugeAmount = .error numericFieldOverflow ∧
    (createPendingDepositAmount .clean 0 hugeAmount "USD" none none fundedDb).2 = some numericFieldOverflow ∧
    (createPendingDepositAmount .clean 0 hugeAmount "USD" none none fundedDb).1.nextId = fundedDb.nextId :=
  ⟨rfl, rfl, by decide, by decide⟩

end PaymentGateway.Api
