import BondingPool.Rounding
import BondingPool.Text.Numeral

/-!
# Fixed-point numbers

A `Fixed` is a non-negative multiple of `10⁻¹⁸` whose raw value fits 256 bits; products and
scaled dividends may pass through 512 bits. Every operation takes its rounding direction from
the caller and either returns the exact result rounded in that direction or says by a `Failure`
why there is none: nothing wraps and nothing saturates.

In decimal text the whole part is written without leading zeros; a fractional part follows a point
only when it is not zero, with eighteen places less the zeros at its end. So every number has one
text and the text loses nothing.
-/

namespace BondingPool

def scale : Nat := 1000000000000000000

def maxRaw : Nat := 1 <<< 256 - 1

def maxWide : Nat := 1 <<< 512 - 1

theorem scale_pos : 0 < scale := by decide

structure Fixed where
  raw : Nat
  raw_le : raw ≤ maxRaw
  deriving DecidableEq, Repr

namespace Fixed

inductive Failure
  | negativeRadicand
  | unsettledRoot
  | negativeRaw (raw : Int)
  | rawTooLarge
  | negativeAmount (n : Int)
  | zeroDivisor
  | negativeFraction
  | fractionTooLarge
  | sumTooLarge
  | negativeDifference
  | wideProduct
  | productTooLarge
  | wideDividend
  | quotientTooLarge
  | degenerateSolve
  deriving DecidableEq, Repr

def Failure.message : Failure → String
  | .negativeRadicand => "square root of a negative value"
  | .unsettledRoot => "square root did not converge"
  | .negativeRaw raw => s!"negative precise value: {raw}"
  | .rawTooLarge => "precise value exceeds 256 bits"
  | .negativeAmount n => s!"cannot represent negative amount {n}"
  | .zeroDivisor => "division by zero"
  | .negativeFraction => "fraction terms must be non-negative"
  | .fractionTooLarge => "fraction numerator overflows the working width"
  | .sumTooLarge => "addition overflow"
  | .negativeDifference => "subtraction would go negative"
  | .wideProduct => "multiplication overflows the wide intermediate"
  | .productTooLarge => "multiplication overflow"
  | .wideDividend => "division overflows the wide intermediate"
  | .quotientTooLarge => "division overflow"
  | .degenerateSolve => "curve solve degenerate: slope * collateral below precision"

instance : LE Fixed := ⟨fun a b => a.raw ≤ b.raw⟩

instance : LT Fixed := ⟨fun a b => a.raw < b.raw⟩

instance (a b : Fixed) : Decidable (a ≤ b) := inferInstanceAs (Decidable (a.raw ≤ b.raw))

instance (a b : Fixed) : Decidable (a < b) := inferInstanceAs (Decidable (a.raw < b.raw))

theorem le_iff_raw {a b : Fixed} : a ≤ b ↔ a.raw ≤ b.raw := Iff.rfl

theorem lt_iff_raw {a b : Fixed} : a < b ↔ a.raw < b.raw := Iff.rfl

theorem ext_raw {a b : Fixed} (h : a.raw = b.raw) : a = b := by
  cases a
  cases b
  cases h
  rfl

/-- The number with this raw value, or `failure` when it is too large for one. -/
def fit (raw : Nat) (failure : Failure) : Except Failure Fixed :=
  if h : raw ≤ maxRaw then .ok ⟨raw, h⟩ else .error failure

theorem fit_eq_ok_iff {raw : Nat} {failure : Failure} {x : Fixed} :
    fit raw failure = .ok x ↔ x.raw = raw := by
  unfold fit
  split
  · next h =>
    constructor
    · intro hx
      cases hx
      rfl
    · intro hx
      exact congrArg Except.ok (ext_raw hx.symm)
  · next h =>
    constructor
    · intro hx
      cases hx
    · intro hx
      exact absurd (hx ▸ x.raw_le) h

theorem fit_eq_error_iff {raw : Nat} {failure other : Failure} :
    fit raw failure = .error other ↔ maxRaw < raw ∧ failure = other := by
  unfold fit
  split
  · next h => exact ⟨nofun, fun hx => absurd h (Nat.not_le.2 hx.1)⟩
  · next h => simp [Nat.not_le.1 h]

def zero : Fixed := ⟨0, Nat.zero_le _⟩

def ofRaw (raw : Int) : Except Failure Fixed :=
  if raw < 0 then .error (.negativeRaw raw) else fit raw.toNat .rawTooLarge

def ofInt (n : Int) : Except Failure Fixed :=
  if n < 0 then .error (.negativeAmount n) else fit (n.toNat * scale) .rawTooLarge

def ofFraction (num den : Int) (r : Rounding) : Except Failure Fixed :=
  if den = 0 then .error .zeroDivisor
  else if num < 0 ∨ den < 0 then .error .negativeFraction
  else if maxRaw < num.toNat * scale then .error .fractionTooLarge
  else fit (divRounded r (num.toNat * scale) den.toNat) .rawTooLarge

def add (a b : Fixed) : Except Failure Fixed :=
  fit (a.raw + b.raw) .sumTooLarge

def sub (a b : Fixed) : Except Failure Fixed :=
  if a < b then .error .negativeDifference
  else .ok ⟨a.raw - b.raw, Nat.le_trans (Nat.sub_le _ _) a.raw_le⟩

def excess (a b : Fixed) : Fixed :=
  ⟨a.raw - b.raw, Nat.le_trans (Nat.sub_le _ _) a.raw_le⟩

def mul (a b : Fixed) (r : Rounding) : Except Failure Fixed :=
  if maxWide < a.raw * b.raw then .error .wideProduct
  else fit (divRounded r (a.raw * b.raw) scale) .productTooLarge

def div (a b : Fixed) (r : Rounding) : Except Failure Fixed :=
  if b.raw = 0 then .error .zeroDivisor
  else if maxWide < a.raw * scale then .error .wideDividend
  else fit (divRounded r (a.raw * scale) b.raw) .quotientTooLarge

/-- `x * p / q`, multiplied out before the one rounding. -/
def timesRatio (x : Fixed) (p q : Nat) (r : Rounding) : Except Failure Fixed := do
  let product ← x.mul (← ofInt p) .down
  product.div (← ofInt q) r

def integerRoot (n : Int) : Except Failure Nat :=
  if n < 0 then .error .negativeRadicand
  else match floorRoot? n.toNat with
    | none => .error .unsettledRoot
    | some root => .ok root

def sqrt (a : Fixed) (r : Rounding) : Except Failure Fixed := do
  let radicand := a.raw * scale
  let root ← integerRoot radicand
  match r with
  | .down => fit root .rawTooLarge
  | .up => fit (if root * root < radicand then root + 1 else root) .rawTooLarge

def toInteger (a : Fixed) (r : Rounding) : Nat := divRounded r a.raw scale

def floor (a : Fixed) : Fixed :=
  ⟨a.toInteger .down * scale, Nat.le_trans (Nat.div_mul_le_self _ _) a.raw_le⟩

def ceiling (a : Fixed) : Except Failure Fixed :=
  fit (a.toInteger .up * scale) .rawTooLarge

def isZero (a : Fixed) : Bool := a.raw == 0

theorem sub_eq_ok_excess {a b : Fixed} (h : b ≤ a) : a.sub b = .ok (a.excess b) := by
  unfold sub
  split
  · next hlt => exact absurd hlt (Nat.not_lt.2 h)
  · rfl

theorem excess_eq_zero {a b : Fixed} (h : a ≤ b) : a.excess b = zero :=
  ext_raw (Nat.sub_eq_zero_of_le h)

/-! ### Decimal text -/

/-- The digits of `n / 10 ^ places` after the point, less the zeros at the end. -/
def fractionDigits : Nat → Nat → List Char
  | 0, _ => []
  | places + 1, n =>
    if n % 10 = 0 then fractionDigits places (n / 10) else Text.decimalDigits (places + 1) n

def decimalDigits (x : Fixed) : List Char :=
  let whole := Nat.toDigits 10 (x.raw / scale)
  let fraction := x.raw % scale
  if fraction = 0 then whole else whole ++ '.' :: fractionDigits 18 fraction

def decimal (x : Fixed) : String := String.ofList x.decimalDigits

theorem length_fractionDigits_le (places n : Nat) :
    (fractionDigits places n).length ≤ places := by
  induction places generalizing n with
  | zero => simp [fractionDigits]
  | succ places ih =>
    rw [fractionDigits]
    split
    · exact Nat.le_succ_of_le (ih _)
    · exact Nat.le_of_eq (Text.length_digitPlaces _ _ _)

end Fixed

end BondingPool
