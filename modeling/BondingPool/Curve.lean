import BondingPool.PriceLine.Sizing
import BondingPool.Admission

/-!
# Curves

A curve is a price line with the fee schedule of its pool. It holds no balances: whoever keeps
them passes them in with every question and moves the amounts of a fill itself. Questions are
answered for a free schedule only, and every amount has to be a word.

At its genesis a pool opens without collateral, with a positive supply of bonded tokens and with a
free fee schedule. The loose request is checked in that order: the terms of the line, the two
balances, the schedule.
-/

namespace BondingPool

structure Curve where
  line : PriceLine
  fees : Fees
  deriving DecidableEq, Repr

def admitAmount (role : AmountRole) (n : Int) : Except Rejection Word :=
  match Word.ofInt? n with
  | some w => .ok w
  | none => .error (.calculation (.outOfRange role n))

theorem admitAmount_eq_ok_iff {role : AmountRole} {n : Int} {w : Word} :
    admitAmount role n = .ok w ↔ n = w.val := by
  rw [← Word.ofInt?_eq_some_iff, admitAmount]
  cases Word.ofInt? n with
  | none => exact ⟨nofun, nofun⟩
  | some v => simp

def Fees.requireFree (fees : Fees) : Except Rejection Unit :=
  if fees.isFree then .ok () else .error (.feesCharged fees.charged)

namespace Curve

/-- A buy or sale against balances known to be words. -/
def trade (curve : Curve) (direction : Direction) (collateral bonded offered floor : Word) :
    Except Rejection Fill := do
  curve.fees.requireFree
  if offered.val = 0 then .error (.zeroTrade .nothingOffered)
  else
    let fill ← curve.line.swap direction collateral.val bonded.val offered.val
    if fill.received < floor.val then .error (.slippage fill.received floor.val) else .ok fill

/-- A buy or sale against integers, which have to be words. -/
def quote (curve : Curve) (direction : Direction) (collateral bonded offered floor : Int) :
    Except Rejection Fill := do
  curve.fees.requireFree
  let collateral ← admitAmount .collateral collateral
  let bonded ← admitAmount .bonded bonded
  let offered ← admitAmount .offered offered
  let floor ← admitAmount .floor floor
  curve.trade direction collateral bonded offered floor

def sold (curve : Curve) (collateral : Word) : Except Rejection Fixed :=
  (do curve.line.soldAt (← Fixed.ofInt collateral.val) .up).mapError Rejection.ofFailure

def spotPrice (curve : Curve) (collateral : Word) : Except Rejection Fixed := do
  let position ← curve.sold collateral
  (curve.line.priceAt position .down).mapError Rejection.ofFailure

def changeLiquidity (_ : Curve) (operation : LiquidityOperation) : Except Rejection Curve :=
  .error (.unsupported operation)

def allowsDeposits (_ : Curve) : Bool := false

def allowsWithdrawals (_ : Curve) : Bool := false

theorem quote_eq_trade (curve : Curve) (direction : Direction)
    (collateral bonded offered floor : Word) :
    curve.quote direction collateral.val bonded.val offered.val floor.val =
      curve.trade direction collateral bonded offered floor := by
  unfold quote
  simp only [admitAmount, Word.ofInt?_val]
  unfold trade
  cases curve.fees.requireFree <;> rfl

end Curve

/-! ### Genesis -/

structure Genesis where
  line : PriceLine
  supply : Word
  fees : Fees
  supply_pos : 0 < supply.val
  fees_free : fees.isFree = true
  deriving Repr

namespace Genesis

def curve (g : Genesis) : Curve := ⟨g.line, g.fees⟩

def admitBalance (role : AmountRole) (v : Value) : Except Rejection Word :=
  match v.int?.bind Word.ofInt? with
  | some w => .ok w
  | none => .error (.invalidCurve (.genesisBalance role v.shown))

def ofLine (line : PriceLine) (collateral bonded : Value) (fees : Fees) :
    Except Rejection Genesis := do
  let collateral ← admitBalance .collateral collateral
  let supply ← admitBalance .bonded bonded
  if collateral.val ≠ 0 then .error (.invalidCurve (.seededCollateral collateral.val))
  else if hs : supply.val = 0 then .error (.invalidCurve .emptySupply)
  else if hf : fees.isFree = true then .ok ⟨line, supply, fees, Nat.pos_of_ne_zero hs, hf⟩
  else .error (.feesCharged fees.charged)

def ofValues (terms : Terms Value) (collateral bonded : Value) (fees : Fees) :
    Except Rejection Genesis := do
  let line ← (PriceLine.ofValues terms).mapError fun fault => .invalidCurve (.line fault)
  ofLine line collateral bonded fees

end Genesis

end BondingPool
