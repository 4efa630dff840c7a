import BondingPool.Value

/-!
# Fee schedules

A pool's schedule names four fees, each a ratio of naturals. The collateral of a pool is the
only witness of the volume it sold, so a fee that left value in the pool or took some out would
falsify it; a schedule is free when every numerator is zero.
-/

namespace BondingPool

inductive FeeKind
  | trade
  | ownerTrade
  | ownerWithdraw
  | host
  deriving DecidableEq, Repr

inductive FeePart
  | numerator
  | denominator
  deriving DecidableEq, Repr

structure FeeField where
  kind : FeeKind
  part : FeePart
  deriving DecidableEq, Repr

def FeeField.key (field : FeeField) : String :=
  let stem := match field.kind with
    | .trade => "trade_fee_"
    | .ownerTrade => "owner_trade_fee_"
    | .ownerWithdraw => "owner_withdraw_fee_"
    | .host => "host_fee_"
  match field.part with
  | .numerator => stem ++ "numerator"
  | .denominator => stem ++ "denominator"

def FeeKind.all : List FeeKind := [.trade, .ownerTrade, .ownerWithdraw, .host]

def FeeField.all : List FeeField :=
  FeeKind.all.flatMap fun kind => [⟨kind, .numerator⟩, ⟨kind, .denominator⟩]

structure FeeRate where
  numerator : Nat
  denominator : Nat
  deriving DecidableEq, Repr

structure Fees where
  trade : FeeRate
  ownerTrade : FeeRate
  ownerWithdraw : FeeRate
  host : FeeRate
  deriving DecidableEq, Repr

inductive FeeFault
  | notInteger (field : FeeField)
  | negative (field : FeeField) (n : Int)
  deriving DecidableEq, Repr

def FeeFault.message : FeeFault → String
  | .notInteger field => field.key ++ " must be an int"
  | .negative field n => field.key ++ s!" must be non-negative: {n}"

namespace Fees

def free : Fees := ⟨⟨0, 0⟩, ⟨0, 0⟩, ⟨0, 0⟩, ⟨0, 0⟩⟩

def rate (fees : Fees) : FeeKind → FeeRate
  | .trade => fees.trade
  | .ownerTrade => fees.ownerTrade
  | .ownerWithdraw => fees.ownerWithdraw
  | .host => fees.host

def get (fees : Fees) (field : FeeField) : Nat :=
  match field.part with
  | .numerator => (fees.rate field.kind).numerator
  | .denominator => (fees.rate field.kind).denominator

def admitField (given : FeeField → Value) (field : FeeField) : Except FeeFault Nat :=
  match (given field).int? with
  | none => .error (.notInteger field)
  | some n => if n < 0 then .error (.negative field n) else .ok n.toNat

def admitRate (given : FeeField → Value) (kind : FeeKind) : Except FeeFault FeeRate := do
  let numerator ← admitField given ⟨kind, .numerator⟩
  let denominator ← admitField given ⟨kind, .denominator⟩
  return ⟨numerator, denominator⟩

def ofValues (given : FeeField → Value) : Except FeeFault Fees := do
  let trade ← admitRate given .trade
  let ownerTrade ← admitRate given .ownerTrade
  let ownerWithdraw ← admitRate given .ownerWithdraw
  let host ← admitRate given .host
  return ⟨trade, ownerTrade, ownerWithdraw, host⟩

def charged (fees : Fees) : List FeeKind :=
  FeeKind.all.filter fun kind => (fees.rate kind).numerator ≠ 0

def isFree (fees : Fees) : Bool := fees.charged.isEmpty

theorem isFree_free : free.isFree = true := by decide

end Fees

end BondingPool
