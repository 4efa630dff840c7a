import BondingPool.PriceLine.Position
import BondingPool.Fixed
import BondingPool.Rejection

/-!
# Sizing trades

A trade is sized against the collateral in the pool alone, from which the position is recovered
rounded up. A buy moves the position to the one that the larger collateral stands for, rounded
down; when that takes more than the pool's bonded tokens, it takes all of them and is charged
the collateral that reaching that point costs, rounded up. A sell moves the position back by the
offer and pays the collateral above what the new position locks, both rounded for the pool; an
offer beyond the position is charged the whole tokens of it and is paid everything. A trade that
moves nothing on either side is refused.
-/

namespace BondingPool

open Fixed (Failure)

inductive Cap
  | supply (wanted : Nat)
  | position (sold : Fixed)
  deriving DecidableEq, Repr

structure Sizing where
  direction : Direction
  offered : Int
  paid : Int
  received : Int
  cap : Option Cap
  deriving DecidableEq, Repr

namespace PriceLine

/-- How far a buy would go if the supply had no end. -/
structure Demand where
  held : Fixed
  sold : Fixed
  wanted : Nat
  deriving DecidableEq, Repr

def demand (line : PriceLine) (collateral offered : Int) : Except Failure Demand := do
  let held ← Fixed.ofInt collateral
  let sold ← line.soldAt held .up
  let reach ← line.soldAt (← Fixed.ofInt (collateral + offered)) .down
  return ⟨held, sold, (reach.excess sold).toInteger .down⟩

def meet (line : PriceLine) (demand : Demand) (bonded offered : Int) : Except Failure Sizing := do
  if bonded < demand.wanted then
    let last ← demand.sold.add (← Fixed.ofInt bonded)
    let full ← line.collateralAt last .up
    let paid : Int :=
      if demand.held < full then min offered ((full.excess demand.held).toInteger .up) else 0
    return ⟨.buy, offered, paid, bonded, some (.supply demand.wanted)⟩
  else
    return ⟨.buy, offered, offered, demand.wanted, none⟩

def sizeBuy (line : PriceLine) (collateral bonded offered : Int) : Except Failure Sizing := do
  line.meet (← line.demand collateral offered) bonded offered

def sizeSell (line : PriceLine) (collateral offered : Int) : Except Failure Sizing := do
  let held ← Fixed.ofInt collateral
  let sold ← line.soldAt held .up
  let offer ← Fixed.ofInt offered
  let kept ← line.collateralAt (sold.excess offer) .up
  let received := (held.excess kept).toInteger .down
  if sold < offer then
    return ⟨.sell, offered, min offered (sold.toInteger .down), received, some (.position sold)⟩
  else
    return ⟨.sell, offered, offered, received, none⟩

def size (line : PriceLine) (direction : Direction) (collateral bonded offered : Int) :
    Except Failure Sizing :=
  match direction with
  | .buy => line.sizeBuy collateral bonded offered
  | .sell => line.sizeSell collateral offered

end PriceLine

def Sizing.fill (s : Sizing) : Except ZeroTrade Fill :=
  if s.received = 0 ∨ s.paid = 0 then .error (.noOutput s.direction s.offered)
  else .ok ⟨s.direction, s.paid, s.received, s.cap.isSome⟩

def PriceLine.swap (line : PriceLine) (direction : Direction) (collateral bonded offered : Int) :
    Except Rejection Fill := do
  let sizing ← (line.size direction collateral bonded offered).mapError Rejection.ofFailure
  sizing.fill.mapError Rejection.zeroTrade

theorem Sizing.fill_eq_ok_iff {s : Sizing} {f : Fill} :
    s.fill = .ok f ↔
      s.received ≠ 0 ∧ s.paid ≠ 0 ∧ f = ⟨s.direction, s.paid, s.received, s.cap.isSome⟩ := by
  unfold fill
  split
  · next h => exact ⟨nofun, fun h' => absurd h (not_or.2 ⟨h'.1, h'.2.1⟩)⟩
  · next h =>
    obtain ⟨hr, hp⟩ := not_or.1 h
    constructor
    · intro hf
      cases hf
      exact ⟨hr, hp, rfl⟩
    · rintro ⟨_, _, rfl⟩
      rfl

end BondingPool
