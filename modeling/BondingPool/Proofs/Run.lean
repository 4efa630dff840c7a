import BondingPool.Pool
import BondingPool.Proofs.Sizing

/-!
# Runs of accepted trades

A trade is accepted when the schedule is free, its four amounts are words, the swap moves something
and enough comes out; the pool is then settled, which changes the two balances and nothing else. A
run makes offers one after the other, each to the pool that the ones before it left, and goes on as
long as all are accepted. What one accepted trade keeps, a run keeps, and it holds of every pool on
the way.
-/

namespace BondingPool

/-! ### Accepted trades -/

theorem Fees.requireFree_bind_eq_ok_iff {α : Type} {fees : Fees} {x : Except Rejection α} {y : α} :
    (fees.requireFree >>= fun _ => x) = .ok y ↔ fees.isFree = true ∧ x = .ok y := by
  unfold requireFree
  split
  · next h => simp [h, ok_bind]
  · next h => simp [h, error_bind]

namespace Curve

variable {curve : Curve} {direction : Direction} {collateral bonded : Word} {fill : Fill}

theorem trade_eq_ok_iff {offered floor : Word} :
    curve.trade direction collateral bonded offered floor = .ok fill ↔
      curve.fees.isFree = true ∧ offered.val ≠ 0 ∧
        curve.line.swap direction collateral.val bonded.val offered.val = .ok fill ∧
        floor.val ≤ fill.received := by
  rw [trade, Fees.requireFree_bind_eq_ok_iff]
  refine and_congr_right fun _ => ?_
  by_cases h : offered.val = 0
  · simp [h]
  · simp only [h, ↓reduceIte, ne_eq, not_false_eq_true, true_and, bind_eq_ok_iff]
    constructor
    · rintro ⟨filled, hswap, hfill⟩
      split at hfill
      · nomatch hfill
      · next hge =>
        cases hfill
        exact ⟨hswap, not_lt.mp hge⟩
    · rintro ⟨hswap, hge⟩
      exact ⟨fill, hswap, if_neg (not_lt.mpr hge)⟩

theorem quote_eq_ok_iff {offered floor : ℤ} :
    curve.quote direction collateral.val bonded.val offered floor = .ok fill ↔
      ∃ o f : Word, offered = o.val ∧ floor = f.val ∧
        curve.trade direction collateral bonded o f = .ok fill := by
  constructor
  · intro h
    obtain ⟨-, hquote⟩ := Fees.requireFree_bind_eq_ok_iff.mp h
    simp only [bind_eq_ok_iff, admitAmount_eq_ok_iff] at hquote
    obtain ⟨_, -, _, -, o, ho, f, hf, -⟩ := hquote
    rw [ho, hf, quote_eq_trade] at h
    exact ⟨o, f, ho, hf, h⟩
  · rintro ⟨o, f, rfl, rfl, h⟩
    rwa [quote_eq_trade]

theorem quote_floor_iff {offered : ℤ} {floor : Word} :
    curve.quote direction collateral.val bonded.val offered floor.val = .ok fill ↔
      curve.quote direction collateral.val bonded.val offered 0 = .ok fill ∧
        floor.val ≤ fill.received := by
  simp only [quote_eq_ok_iff, trade_eq_ok_iff]
  constructor
  · rintro ⟨o, f, ho, hf, hfree, hpos, hswap, hfloor⟩
    rw [← hf] at hfloor
    have hnone : (Word.zero.val : ℤ) ≤ fill.received := (Int.natCast_nonneg _).trans hfloor
    exact ⟨⟨o, .zero, ho, rfl, hfree, hpos, hswap, hnone⟩, hfloor⟩
  · rintro ⟨⟨o, -, ho, -, hfree, hpos, hswap, -⟩, hfloor⟩
    exact ⟨o, floor, ho, rfl, hfree, hpos, hswap, hfloor⟩

end Curve

namespace Pool

variable {pool next : Pool} {direction : Direction} {offered floor : ℤ} {fill : Fill}

theorem balancesAfter_buy (h : fill.direction = .buy) :
    pool.balancesAfter fill =
      (pool.collateral.val + fill.paid, pool.bonded.val - fill.received) := by
  rw [balancesAfter, h]

theorem balancesAfter_sell (h : fill.direction = .sell) :
    pool.balancesAfter fill =
      (pool.collateral.val - fill.received, pool.bonded.val + fill.paid) := by
  rw [balancesAfter, h]

theorem settle_eq_ok_iff :
    pool.settle fill = .ok next ↔
      next.curve = pool.curve ∧
        pool.balancesAfter fill = ((next.collateral.val : ℤ), (next.bonded.val : ℤ)) := by
  unfold settle
  rcases pool.balancesAfter fill with ⟨collateral, bonded⟩
  simp only [Prod.mk.injEq]
  split
  · next h =>
    constructor
    · nofun
    · rintro ⟨-, rfl, rfl⟩
      omega
  · next h => exact ofBalances_eq_ok_iff

theorem exists_settle_of_balances {collateral bonded : ℤ}
    (h : pool.balancesAfter fill = (collateral, bonded))
    (hcollateral : 0 ≤ collateral ∧ collateral ≤ maxWord)
    (hbonded : 0 ≤ bonded ∧ bonded ≤ maxWord) : ∃ next, pool.settle fill = .ok next := by
  have hc : collateral.toNat ≤ maxWord := by omega
  have hb : bonded.toNat ≤ maxWord := by omega
  refine ⟨⟨pool.curve, ⟨_, hc⟩, ⟨_, hb⟩⟩, settle_eq_ok_iff.mpr ⟨rfl, h.trans ?_⟩⟩
  exact Prod.ext (Int.toNat_of_nonneg hcollateral.1).symm (Int.toNat_of_nonneg hbonded.1).symm

theorem trade_eq_ok_iff :
    pool.trade direction offered floor = .ok (fill, next) ↔
      pool.quote direction offered floor = .ok fill ∧ pool.settle fill = .ok next := by
  simp only [trade, bind_eq_ok_iff]
  constructor
  · rintro ⟨filled, hquote, settled, hsettle, hpair⟩
    cases hpair
    exact ⟨hquote, hsettle⟩
  · rintro ⟨hquote, hsettle⟩
    exact ⟨fill, hquote, next, hsettle, rfl⟩

end Pool

/-! ### Runs -/

structure Offer where
  direction : Direction
  amount : ℤ
  floor : ℤ
  deriving DecidableEq, Repr

/-- An accepted trade: the pool it met, the offer and what came of it. -/
structure Trade where
  before : Pool
  offer : Offer
  fill : Fill
  deriving DecidableEq, Repr

def Trade.Leaves (t : Trade) (next : Pool) : Prop :=
  t.before.trade t.offer.direction t.offer.amount t.offer.floor = .ok (t.fill, next)

def Genesis.sample : Genesis where
  line :=
    { slope := ⟨⟨1, by decide⟩, ⟨200000000, by decide⟩, by decide⟩
      base := ⟨⟨150, by decide⟩, ⟨3, by decide⟩, by decide⟩
      positive := by decide }
  supply := ⟨50000000000, by decide⟩
  fees := .free
  supply_pos := by decide
  fees_free := Fees.isFree_free

def Genesis.sampleReduced : Genesis :=
  { Genesis.sample with
    line :=
      { slope := Genesis.sample.line.slope
        base := ⟨⟨50, by decide⟩, ⟨1, by decide⟩, by decide⟩
        positive := by decide } }

/-- A genesis whose slope is lost in precision until ten of the smallest units of collateral are in. -/
def Genesis.shallow : Genesis where
  line :=
    { slope := ⟨⟨1, by decide⟩, ⟨maxWord, le_rfl⟩, by decide⟩
      base := ⟨.zero, ⟨1, by decide⟩, by decide⟩
      positive := by decide }
  supply := ⟨maxWord, le_rfl⟩
  fees := .free
  supply_pos := by decide
  fees_free := Fees.isFree_free

/-- A genesis at one price, the smallest that has a fixed-point number. -/
def Genesis.cheapest : Genesis where
  line :=
    { slope := ⟨.zero, ⟨1, by decide⟩, by decide⟩
      base := ⟨⟨1, by decide⟩, ⟨1000000000000000000, by decide⟩, by decide⟩
      positive := by decide }
  supply := ⟨maxWord, le_rfl⟩
  fees := .free
  supply_pos := by decide
  fees_free := Fees.isFree_free

/-- A genesis at one price a little above one that no fixed-point number is. -/
def Genesis.level : Genesis where
  line :=
    { slope := ⟨.zero, ⟨1, by decide⟩, by decide⟩
      base := ⟨⟨10000000000, by decide⟩, ⟨9999999999, by decide⟩, by decide⟩
      positive := by decide }
  supply := ⟨maxWord, le_rfl⟩
  fees := .free
  supply_pos := by decide
  fees_free := Fees.isFree_free

namespace Pool

def run (pool : Pool) : List Offer → Except Rejection (List Trade × Pool)
  | [] => .ok ([], pool)
  | offer :: rest => do
    let (fill, next) ← pool.trade offer.direction offer.amount offer.floor
    let (trades, last) ← next.run rest
    return (⟨pool, offer, fill⟩ :: trades, last)

variable {pool next last : Pool} {offer : Offer} {offers : List Offer} {trades : List Trade}

theorem run_cons_eq_ok_iff :
    pool.run (offer :: offers) = .ok (trades, last) ↔
      ∃ fill next later, (Trade.mk pool offer fill).Leaves next ∧
        next.run offers = .ok (later, last) ∧ trades = ⟨pool, offer, fill⟩ :: later := by
  simp only [run, bind_eq_ok_iff, Trade.Leaves]
  constructor
  · rintro ⟨⟨fill, next⟩, htrade, ⟨later, last⟩, hrun, hpair⟩
    cases hpair
    exact ⟨fill, next, later, htrade, hrun, rfl⟩
  · rintro ⟨fill, next, later, htrade, hrun, rfl⟩
    exact ⟨(fill, next), htrade, (later, last), hrun, rfl⟩

theorem run_preserves {P : Pool → Prop} {Q : Trade → Prop}
    (hstep : ∀ t next, P t.before → Q t → t.Leaves next → P next)
    (h : pool.run offers = .ok (trades, last)) (hQ : ∀ t ∈ trades, Q t) (hP : P pool) :
    P last ∧ ∀ t ∈ trades, P t.before ∧ ∃ next, t.Leaves next := by
  induction offers generalizing pool trades with
  | nil =>
    cases h
    exact ⟨hP, nofun⟩
  | cons offer offers ih =>
    obtain ⟨fill, next, later, hleaves, hrun, rfl⟩ := run_cons_eq_ok_iff.mp h
    have hnext := hstep _ next hP (hQ _ (List.mem_cons_self ..)) hleaves
    obtain ⟨hlast, hlater⟩ := ih hrun (fun t ht => hQ t (List.mem_cons_of_mem _ ht)) hnext
    refine ⟨hlast, fun t ht => ?_⟩
    rcases List.mem_cons.mp ht with rfl | ht
    · exact ⟨hP, next, hleaves⟩
    · exact hlater t ht

end Pool

namespace Trade

variable {t : Trade} {next : Pool}

theorem Leaves.swap (h : t.Leaves next) :
    next.curve = t.before.curve ∧ ∃ offered : Word, t.offer.amount = offered.val ∧
      t.before.curve.line.swap t.offer.direction t.before.collateral.val t.before.bonded.val
        offered.val = .ok t.fill ∧
      t.before.balancesAfter t.fill = ((next.collateral.val : ℤ), (next.bonded.val : ℤ)) := by
  obtain ⟨hquote, hsettle⟩ := Pool.trade_eq_ok_iff.mp h
  obtain ⟨offered, floor, hoffered, -, htrade⟩ := Curve.quote_eq_ok_iff.mp hquote
  obtain ⟨-, -, hswap, -⟩ := Curve.trade_eq_ok_iff.mp htrade
  obtain ⟨hcurve, hbalances⟩ := Pool.settle_eq_ok_iff.mp hsettle
  exact ⟨hcurve, offered, hoffered, hswap, hbalances⟩

theorem Leaves.buy (h : t.Leaves next) (hd : t.offer.direction = .buy) :
    ∃ offered : Word, t.offer.amount = offered.val ∧
      t.before.curve.line.swap .buy t.before.collateral.val t.before.bonded.val offered.val =
        .ok t.fill ∧
      (next.collateral.val : ℤ) = t.before.collateral.val + t.fill.paid ∧
      (next.bonded.val : ℤ) = t.before.bonded.val - t.fill.received := by
  obtain ⟨-, offered, hoffered, hswap, hbalances⟩ := h.swap
  rw [hd] at hswap
  obtain ⟨hdirection, -⟩ := PriceLine.swap_buy_bounds hswap
  rw [Pool.balancesAfter_buy hdirection] at hbalances
  obtain ⟨hcollateral, hbonded⟩ := Prod.mk.inj hbalances
  exact ⟨offered, hoffered, hswap, hcollateral.symm, hbonded.symm⟩

theorem Leaves.sell (h : t.Leaves next) (hd : t.offer.direction = .sell) :
    ∃ offered : Word, t.offer.amount = offered.val ∧
      t.before.curve.line.swap .sell t.before.collateral.val t.before.bonded.val offered.val =
        .ok t.fill ∧
      (next.collateral.val : ℤ) = t.before.collateral.val - t.fill.received ∧
      (next.bonded.val : ℤ) = t.before.bonded.val + t.fill.paid := by
  obtain ⟨-, offered, hoffered, hswap, hbalances⟩ := h.swap
  rw [hd] at hswap
  obtain ⟨hdirection, -⟩ := PriceLine.swap_sell_bounds hswap
  rw [Pool.balancesAfter_sell hdirection] at hbalances
  obtain ⟨hcollateral, hbonded⟩ := Prod.mk.inj hbalances
  exact ⟨offered, hoffered, hswap, hcollateral.symm, hbonded.symm⟩

theorem Leaves.balances_of_buy (h : t.Leaves next) (hd : t.offer.direction = .buy) :
    (next.collateral.val : ℚ) = t.before.collateral.val + t.fill.paid ∧
      (next.bonded.val : ℚ) = t.before.bonded.val - t.fill.received := by
  obtain ⟨-, -, -, hcollateral, hbonded⟩ := h.buy hd
  exact ⟨by exact_mod_cast congrArg (Int.cast (R := ℚ)) hcollateral,
    by exact_mod_cast congrArg (Int.cast (R := ℚ)) hbonded⟩

theorem Leaves.balances_of_sell (h : t.Leaves next) (hd : t.offer.direction = .sell) :
    (next.collateral.val : ℚ) = t.before.collateral.val - t.fill.received ∧
      (next.bonded.val : ℚ) = t.before.bonded.val + t.fill.paid := by
  obtain ⟨-, -, -, hcollateral, hbonded⟩ := h.sell hd
  exact ⟨by exact_mod_cast congrArg (Int.cast (R := ℚ)) hcollateral,
    by exact_mod_cast congrArg (Int.cast (R := ℚ)) hbonded⟩

end Trade

end BondingPool
