import BondingPool.Fees
import BondingPool.PriceLine.Basic
import BondingPool.Fixed

/-!
# Trades and rejections

A trader buys bonded tokens with collateral or sells them back for collateral. A fill says what
was paid in and received in the smallest units of the two tokens, and whether the pool could
not serve the whole offer.

Depositing or withdrawing either token would part the collateral from the volume it stands for,
so a bonding pool knows these operations only to refuse them.

Every reason for which the library turns a request down has a kind. Each kind has a code of its
own that callers can rely on; the message names the cause.
-/

namespace BondingPool

/-! ### Trades -/

inductive Direction
  | buy
  | sell
  deriving DecidableEq, Repr

def Direction.key : Direction → String
  | .buy => "a_to_b"
  | .sell => "b_to_a"

def Direction.ofKey? (key : String) : Option Direction :=
  if key = Direction.buy.key then some .buy
  else if key = Direction.sell.key then some .sell
  else none

theorem Direction.ofKey?_key (direction : Direction) : ofKey? direction.key = some direction := by
  cases direction <;> rfl

structure Fill where
  direction : Direction
  paid : Int
  received : Int
  capped : Bool
  deriving DecidableEq, Repr

inductive AmountRole
  | collateral
  | bonded
  | offered
  | floor
  deriving DecidableEq, Repr

def AmountRole.key : AmountRole → String
  | .collateral => "collateral_balance"
  | .bonded => "bonded_balance"
  | .offered => "amount_in"
  | .floor => "minimum_amount_out"

/-! ### Liquidity operations -/

inductive LiquidityOperation
  | depositAll
  | depositSingle
  | withdrawAll
  | withdrawSingle
  deriving DecidableEq, Repr

def LiquidityOperation.key : LiquidityOperation → String
  | .depositAll => "deposit_all_token_types"
  | .depositSingle => "deposit_single_token_type"
  | .withdrawAll => "withdraw_all_token_types"
  | .withdrawSingle => "withdraw_single_token_type"

def LiquidityOperation.all : List LiquidityOperation :=
  [.depositAll, .depositSingle, .withdrawAll, .withdrawSingle]

def LiquidityOperation.ofKey? (key : String) : Option LiquidityOperation :=
  all.find? (·.key == key)

/-! ### Reasons -/

inductive CalculationFault
  | arithmetic (failure : Fixed.Failure)
  | outOfRange (role : AmountRole) (n : Int)
  | overdrawn (collateral bonded : Int)
  deriving DecidableEq, Repr

inductive ZeroTrade
  | nothingOffered
  | noOutput (direction : Direction) (offered : Int)
  | noOutputOf (direction : Direction) (shown : String)
  deriving DecidableEq, Repr

inductive CurveFault
  | line (fault : LineFault)
  | genesisBalance (role : AmountRole) (shown : String)
  | seededCollateral (n : Nat)
  | emptySupply
  | packedLength (n : Nat)
  | notMapping
  | unknownTag (shown : String)
  | missingTerms (terms : List Term)
  deriving DecidableEq, Repr

inductive Rejection
  | calculation (cause : CalculationFault)
  | zeroTrade (cause : ZeroTrade)
  | invalidCurve (cause : CurveFault)
  | unsupported (operation : LiquidityOperation)
  | feesCharged (charged : List FeeKind)
  | slippage (received floor : Int)
  deriving DecidableEq, Repr

def curveTag : String := "LINEAR_PRICE_V1"

def CalculationFault.message : CalculationFault → String
  | .arithmetic failure => failure.message
  | .outOfRange role n => role.key ++ s!" must be in [0, {maxWord}]: {n}"
  | .overdrawn collateral bonded =>
    s!"trade result drains the pool below zero: collateral={collateral} bonded={bonded}"

def ZeroTrade.message : ZeroTrade → String
  | .nothingOffered => "amount_in must be positive"
  | .noOutput direction offered => direction.key ++ s!" trade of {offered} produces no output"
  | .noOutputOf direction shown => direction.key ++ s!" trade of {shown} produces no output"

def CurveFault.message : CurveFault → String
  | .line fault => fault.message
  | .genesisBalance role shown => role.key ++ s!" must be an int in [0, {maxWord}]: {shown}"
  | .seededCollateral n => s!"collateral balance must be zero at genesis: {n}"
  | .emptySupply => "bonded balance must be positive at genesis"
  | .packedLength n => s!"packed curve must be 32 bytes, got {n}"
  | .notMapping => "curve must be a mapping"
  | .unknownTag shown => "unsupported curve_tag: " ++ shown
  | .missingTerms terms => "curve is missing fields: " ++ Value.commas (terms.map Term.key)

namespace Rejection

def message : Rejection → String
  | .calculation cause => cause.message
  | .zeroTrade cause => cause.message
  | .invalidCurve cause => cause.message
  | .unsupported operation =>
    operation.key ++ " is not supported by the " ++ curveTag ++ " curve"
  | .feesCharged charged =>
    "linear curve does not support fees: " ++
      Value.commas (charged.map fun kind => FeeField.key ⟨kind, .numerator⟩)
  | .slippage received floor => s!"amount_out {received} below minimum_amount_out {floor}"

def code : Rejection → String
  | .calculation _ => "calculation_failure"
  | .zeroTrade _ => "zero_trading_tokens"
  | .invalidCurve _ => "invalid_curve_state"
  | .unsupported _ => "unsupported_operation"
  | .feesCharged _ => "fees_not_allowed_for_curve"
  | .slippage _ _ => "exceeded_slippage"

def ofFailure (failure : Fixed.Failure) : Rejection := .calculation (.arithmetic failure)

end Rejection

end BondingPool
