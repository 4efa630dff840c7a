import BondingPool.PriceLine.Basic
import BondingPool.Fixed

/-!
# Positions on a price line

The position `b` of a pool is the amount of bonded tokens ever sold out of it. Selling the first
`b` tokens locks the collateral `slope / 2 * b² + base * b` in the pool, and the position is
recovered from the collateral `R` as `2R / (base + √(base² + 2 * slope * R))`, a form of the
positive root that cancels nowhere and holds for a flat line too. Products come before
quotients, so each term is rounded once in the direction asked for; the divisor of the position
is rounded the other way.

The rational quantities that the fixed-point ones stand for are the price at a position and the
collateral locked up to it, without any rounding. Lines with the same two ratios have the same
prices, however the ratios are written.
-/

namespace BondingPool

namespace PriceLine

open Fixed (Failure)

def priceAt (line : PriceLine) (b : Fixed) (r : Rounding) : Except Failure Fixed := do
  let rise ← b.timesRatio line.slope.num.val line.slope.den.val r
  let base ← Fixed.ofFraction line.base.num.val line.base.den.val r
  rise.add base

def collateralAt (line : PriceLine) (b : Fixed) (r : Rounding) : Except Failure Fixed := do
  let square ← b.mul b r
  let quadratic ← square.timesRatio line.slope.num.val (2 * line.slope.den.val) r
  let linear ← b.timesRatio line.base.num.val line.base.den.val r
  quadratic.add linear

/-- The divisor `base + √(base² + 2 * slope * R)` of the position, every term rounded alike. -/
def divisorAt (line : PriceLine) (collateral : Fixed) (r : Rounding) : Except Failure Fixed := do
  let baseSquare ← Fixed.ofFraction (line.base.num.val * line.base.num.val)
    (line.base.den.val * line.base.den.val) r
  let growth ← collateral.timesRatio (2 * line.slope.num.val) line.slope.den.val r
  let root ← (← baseSquare.add growth).sqrt r
  let base ← Fixed.ofFraction line.base.num.val line.base.den.val r
  base.add root

/-- The number of tokens sold once the pool holds this much collateral. -/
def soldAt (line : PriceLine) (collateral : Fixed) (r : Rounding) : Except Failure Fixed :=
  if collateral.isZero then .ok .zero
  else do
    let divisor ← line.divisorAt collateral r.opposite
    if divisor.isZero then .error .degenerateSolve
    else
      let twice ← collateral.mul (← Fixed.ofInt 2) .down
      twice.div divisor r

theorem soldAt_zero (line : PriceLine) (r : Rounding) : line.soldAt .zero r = .ok .zero := rfl

end PriceLine

/-! ### Exact prices and costs -/

def Fixed.value (x : Fixed) : Rat := x.raw / scale

def Ratio.value (q : Ratio) : Rat := q.num.val / q.den.val

/-- Both pairs stand for one ratio. -/
def Ratio.Same (p q : Ratio) : Prop := p.num.val * q.den.val = q.num.val * p.den.val

namespace PriceLine

def price (line : PriceLine) (b : Rat) : Rat := line.slope.value * b + line.base.value

def cost (line : PriceLine) (b : Rat) : Rat :=
  line.slope.num.val * (b * b) / (2 * line.slope.den.val) +
    line.base.num.val * b / line.base.den.val

theorem cost_eq_mul (line : PriceLine) (b : Rat) :
    line.cost b = b * (line.price 0 + line.price b) / 2 := by
  unfold cost price Ratio.value
  grind

def Same (p q : PriceLine) : Prop := p.slope.Same q.slope ∧ p.base.Same q.base

end PriceLine

end BondingPool
