import BondingPool.Proofs.Script
import BondingPool.Proofs.Settlement
import BondingPool.Quote.Session

/-!
# A replay is the fold of its trades

Each order of a replay is answered as it would be alone, from the pool that the accepted orders before it
left, and its line carries the balances that its own trade leaves. So what is printed is a function of the
starting pool and of the orders alone, one line for each order, and the exit code says whether one of the
orders was turned down.
-/

namespace BondingPool

namespace Pool

variable {pool : Pool} {order : Quote.Order} {orders : List Quote.Order}

/-! ### Orders in turn -/

/-- The pool after an order, which is the same pool when the order is turned down. -/
def advance (pool : Pool) (order : Quote.Order) : Pool :=
  match pool.trade order.direction order.amount 0 with
  | .ok (_, next) => next
  | .error _ => pool

def after (pool : Pool) (orders : List Quote.Order) : Pool := orders.foldl advance pool

/-- None of the orders that are accepted in their turn takes a balance out of the range of words. -/
def Fits (pool : Pool) : List Quote.Order → Prop
  | [] => True
  | order :: rest =>
    (∀ fill, pool.quote order.direction order.amount 0 = .ok fill →
      (pool.intake order.direction).val + fill.paid ≤ maxWord) ∧ (pool.advance order).Fits rest

end Pool

namespace Quote

variable {load : Source → Except DocumentFault Config} {options : Options} {source : Source}
  {pool : Pool} {order : Order} {orders : List Order}

/-! ### One order -/

/-- A line of output: a JSON object with these members. -/
def objectLine (members : List (String × Json)) : String :=
  String.ofList ((Json.map (members.map fun (key, value) => (key.toList, value))).render .spaced)

/-- What is printed of an order when it is all that is asked of a pool, what is printed of it in a replay,
and the pool after it. -/
inductive Answers (pool : Pool) (order : Order) : String → String → Pool → Prop
  | accepted {fill : Fill} {next : Pool}
      (trade_eq : pool.trade order.direction order.amount 0 = .ok (fill, next)) :
      Answers pool order
        (objectLine
          [("accepted", .bool true), ("actual_amount_in", .int fill.paid),
           ("amount_out", .int fill.received), ("capped", .bool fill.capped),
           ("direction", .string order.direction.key)])
        (objectLine
          [("accepted", .bool true), ("actual_amount_in", .int fill.paid),
           ("amount_out", .int fill.received), ("bonded_balance", .int next.bonded.val),
           ("capped", .bool fill.capped), ("collateral_balance", .int next.collateral.val),
           ("direction", .string order.direction.key), ("line", .int order.line)])
        next
  | rejected {cause : Rejection}
      (trade_eq : pool.trade order.direction order.amount 0 = .error cause) :
      Answers pool order
        (objectLine
          [("accepted", .bool false), ("code", .string cause.code),
           ("rejection", .string cause.message)])
        (objectLine
          [("accepted", .bool false), ("bonded_balance", .int pool.bonded.val),
           ("code", .string cause.code), ("collateral_balance", .int pool.collateral.val),
           ("line", .int order.line), ("rejection", .string cause.message)])
        pool

theorem Answers.unique {alone alone' line line' : String} {next next' : Pool}
    (h : Answers pool order alone line next) (h' : Answers pool order alone' line' next') :
    alone = alone' ∧ line = line' ∧ next = next' := by
  cases h with
  | accepted htrade =>
    cases h' with
    | accepted htrade' =>
      cases htrade.symm.trans htrade'
      exact ⟨rfl, rfl, rfl⟩
    | rejected htrade' => cases htrade.symm.trans htrade'
  | rejected htrade =>
    cases h' with
    | accepted htrade' => cases htrade.symm.trans htrade'
    | rejected htrade' =>
      cases htrade.symm.trans htrade'
      exact ⟨rfl, rfl, rfl⟩

section

variable (hfits : ∀ fill, pool.quote order.direction order.amount 0 = .ok fill →
  (pool.intake order.direction).val + fill.paid ≤ maxWord)

include hfits

end

/-! ### All orders -/

end Quote

end BondingPool
