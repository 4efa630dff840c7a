import BondingPool.Curve
import BondingPool.Encoding
import BondingPool.Value

/-!
# Pools

A pool is a curve with the balances that a ledger holds for it. Trading and settling return the
next pool; the curve never changes.

Questions to a curve or a pool may come in loose values. Each amount is then asked for its kind and
for its range before the next one is looked at. The direction comes last, after an empty offer was
refused: a value that is no direction is misuse.
-/

namespace BondingPool

structure Pool where
  curve : Curve
  collateral : Word
  bonded : Word
  deriving DecidableEq, Repr

def Genesis.pool (g : Genesis) : Pool := ⟨g.curve, .zero, g.supply⟩

namespace Pool

def ofBalances (curve : Curve) (collateral bonded : Int) : Except Rejection Pool := do
  let collateral ← admitAmount .collateral collateral
  let bonded ← admitAmount .bonded bonded
  return ⟨curve, collateral, bonded⟩

/-- The balances after a fill: what was paid comes in and what was received goes out. -/
def balancesAfter (pool : Pool) (fill : Fill) : Int × Int :=
  match fill.direction with
  | .buy => (pool.collateral.val + fill.paid, pool.bonded.val - fill.received)
  | .sell => (pool.collateral.val - fill.received, pool.bonded.val + fill.paid)

def settle (pool : Pool) (fill : Fill) : Except Rejection Pool :=
  let (collateral, bonded) := pool.balancesAfter fill
  if collateral < 0 ∨ bonded < 0 then .error (.calculation (.overdrawn collateral bonded))
  else ofBalances pool.curve collateral bonded

def quote (pool : Pool) (direction : Direction) (offered floor : Int) : Except Rejection Fill :=
  pool.curve.quote direction pool.collateral.val pool.bonded.val offered floor

def trade (pool : Pool) (direction : Direction) (offered floor : Int) :
    Except Rejection (Fill × Pool) := do
  let fill ← pool.quote direction offered floor
  return (fill, ← pool.settle fill)

def sold (pool : Pool) : Except Rejection Fixed := pool.curve.sold pool.collateral

def spotPrice (pool : Pool) : Except Rejection Fixed := pool.curve.spotPrice pool.collateral

structure Report where
  identity : String
  line : PriceLine
  collateral : Word
  bonded : Word
  sold : Fixed
  deriving DecidableEq, Repr

def report (pool : Pool) : Except Rejection Report := do
  let sold ← pool.sold
  return ⟨pool.curve.line.identity, pool.curve.line, pool.collateral, pool.bonded, sold⟩

theorem ofBalances_eq_ok_iff {curve : Curve} {collateral bonded : Int} {pool : Pool} :
    ofBalances curve collateral bonded = .ok pool ↔
      pool.curve = curve ∧ collateral = pool.collateral.val ∧ bonded = pool.bonded.val := by
  unfold ofBalances
  constructor
  · intro h
    cases hc : admitAmount .collateral collateral with
    | error e =>
      rw [hc] at h
      nomatch h
    | ok c =>
      cases hb : admitAmount .bonded bonded with
      | error e =>
        rw [hc, hb] at h
        nomatch h
      | ok b =>
        rw [hc, hb] at h
        cases h
        exact ⟨rfl, admitAmount_eq_ok_iff.1 hc, admitAmount_eq_ok_iff.1 hb⟩
  · rintro ⟨rfl, hc, hb⟩
    rw [admitAmount_eq_ok_iff.2 hc, admitAmount_eq_ok_iff.2 hb]
    rfl

end Pool

/-! ### Questions in loose values -/

def admitAmountValue (role : AmountRole) (v : Value) : Admitted Rejection Word := do
  let n ← Admitted.integer role.key v
  Admitted.ofExcept (admitAmount role n)

namespace Curve

def admitTrade (curve : Curve) (direction : Direction ⊕ Value)
    (collateral bonded offered floor : Value) : Admitted Rejection Fill := do
  Admitted.ofExcept curve.fees.requireFree
  let collateral ← admitAmountValue .collateral collateral
  let bonded ← admitAmountValue .bonded bonded
  let offered ← admitAmountValue .offered offered
  let floor ← admitAmountValue .floor floor
  match direction with
  | .inl direction => Admitted.ofExcept (curve.trade direction collateral bonded offered floor)
  | .inr v =>
    if offered.val = 0 then Admitted.ofExcept (.error (.zeroTrade .nothingOffered))
    else Admitted.misuse (.unknownDirection v.shown)

def admitSold (curve : Curve) (collateral : Value) : Admitted Rejection Fixed := do
  let collateral ← admitAmountValue .collateral collateral
  Admitted.ofExcept (curve.sold collateral)

def admitSpotPrice (curve : Curve) (collateral : Value) : Admitted Rejection Fixed := do
  let collateral ← admitAmountValue .collateral collateral
  Admitted.ofExcept (curve.spotPrice collateral)

end Curve

namespace Pool

def admitBalances (curve : Curve) (collateral bonded : Value) : Admitted Rejection Pool := do
  let collateral ← admitAmountValue .collateral collateral
  let bonded ← admitAmountValue .bonded bonded
  return ⟨curve, collateral, bonded⟩

def admitTrade (pool : Pool) (direction : Direction ⊕ Value) (offered floor : Value) :
    Admitted Rejection (Fill × Pool) := do
  let fill ← pool.curve.admitTrade direction
    (.int pool.collateral.val) (.int pool.bonded.val) offered floor
  let next ← Admitted.ofExcept (pool.settle fill)
  return (fill, next)

end Pool

/-! ### Swaps without a curve's checks -/

/-- A fill as it is answered to a loose offer: one that is taken whole is paid as it was given. -/
structure LooseFill where
  fill : Fill
  paid : Value

def LooseFill.ofSizing (offered : Value) (s : Sizing) : Except Rejection LooseFill :=
  match s.fill, offered with
  | .ok fill, .bool b => .ok ⟨fill, if s.paid = s.offered then .bool b else .int fill.paid⟩
  | .ok fill, _ => .ok ⟨fill, .int fill.paid⟩
  | .error _, .bool b => .error (.zeroTrade (.noOutputOf s.direction (Value.bool b).shown))
  | .error cause, _ => .error (.zeroTrade cause)

namespace PriceLine

open Fixed (Failure)

def admitResult {α : Type} (answer : Except Failure α) : Admitted Rejection α :=
  Admitted.ofExcept (answer.mapError Rejection.ofFailure)

def offerMisuse (offered : Value) : Misuse :=
  match offered with
  | .float _ => .notInteger "n"
  | v => .noSum v.kind

/-- The supply that a demand is held against. A number of any kind that covers it will do, but
one that does not has to be an integer. -/
def admitSupply (wanted : Nat) (bonded : Value) : Admitted Rejection Int :=
  match bonded.number? with
  | none => Admitted.misuse (.noOrder bonded.kind)
  | some n => if n.before (.finite wanted) then Admitted.integer "n" bonded else .ok wanted

def admitBuy (line : PriceLine) (collateral bonded offered : Value) :
    Admitted Rejection LooseFill := do
  let held ← Admitted.integer "n" collateral
  match offered.summand? with
  | none =>
    let _ ← admitResult (do line.soldAt (← Fixed.ofInt held) .up)
    Admitted.misuse (offerMisuse offered)
  | some amount =>
    let demand ← admitResult (line.demand held amount)
    let supply ← admitSupply demand.wanted bonded
    let sizing ← admitResult (line.meet demand supply amount)
    Admitted.ofExcept (LooseFill.ofSizing offered sizing)

def admitSell (line : PriceLine) (collateral offered : Value) : Admitted Rejection LooseFill := do
  let held ← Admitted.integer "n" collateral
  let _ ← admitResult (do line.soldAt (← Fixed.ofInt held) .up)
  let amount ← Admitted.integer "n" offered
  let sizing ← admitResult (line.sizeSell held amount)
  Admitted.ofExcept (LooseFill.ofSizing offered sizing)

def admitSwap (line : PriceLine) (direction : Direction) (collateral bonded offered : Value) :
    Admitted Rejection LooseFill :=
  match direction with
  | .buy => line.admitBuy collateral bonded offered
  | .sell => line.admitSell collateral offered

end PriceLine

end BondingPool
