import BondingPool.Proofs.Quotable

/-!
# Which fills can be settled

A quote looks at the balances of a pool one by one, and settling it puts them together. The balance that a
fill is paid out of never runs short, so what can keep an accepted fill from being settled is only that the
balance it is paid into has no word left for the sum.
-/

namespace BondingPool

def Direction.credited : Direction → AmountRole
  | .buy => .collateral
  | .sell => .bonded

theorem admitAmount_of_lt (role : AmountRole) {n : ℤ} (h : (maxWord : ℤ) < n) :
    admitAmount role n = .error (.calculation (.outOfRange role n)) := by
  rw [admitAmount, Word.ofInt?_eq_none_iff.mpr (Or.inr h)]

theorem exists_admitAmount (role : AmountRole) {n : ℤ} (hn : 0 ≤ n) (h : n ≤ maxWord) :
    ∃ w, admitAmount role n = .ok w := by
  have hword : n.toNat ≤ maxWord := by omega
  exact ⟨⟨n.toNat, hword⟩, admitAmount_eq_ok_iff.mpr (Int.toNat_of_nonneg hn).symm⟩

namespace Pool

variable {pool next : Pool} {direction : Direction} {offered floor : ℤ} {fill : Fill}
  {cause : Rejection}

/-- The balance that an offer in this direction is paid into. -/
def intake (pool : Pool) : Direction → Word
  | .buy => pool.collateral
  | .sell => pool.bonded

/-- The balance that an offer in this direction is paid out of. -/
def reserve (pool : Pool) : Direction → Word
  | .buy => pool.bonded
  | .sell => pool.collateral

/-! ### One fill -/

theorem quote_bounds (h : pool.quote direction offered floor = .ok fill) :
    fill.direction = direction ∧ 0 < fill.paid ∧ 0 < fill.received ∧
      fill.received ≤ (pool.reserve direction).val := by
  obtain ⟨a, _, -, -, htrade⟩ := Curve.quote_eq_ok_iff.mp h
  obtain ⟨-, -, hswap, -⟩ := Curve.trade_eq_ok_iff.mp htrade
  cases direction with
  | buy =>
    obtain ⟨hdirection, hpaid, -, hreceived, hle, -⟩ := PriceLine.swap_buy_bounds hswap
    exact ⟨hdirection, hpaid, hreceived, hle⟩
  | sell =>
    obtain ⟨hdirection, hpaid, -, hreceived, hle, -⟩ := PriceLine.swap_sell_bounds hswap
    exact ⟨hdirection, hpaid, hreceived, hle⟩

theorem settle_eq_ok_iff_moved (h : fill.direction = direction) :
    pool.settle fill = .ok next ↔ next.curve = pool.curve ∧
      (next.intake direction).val = (pool.intake direction).val + fill.paid ∧
      (next.reserve direction).val = (pool.reserve direction).val - fill.received := by
  rw [settle_eq_ok_iff]
  refine and_congr_right fun _ => ?_
  cases direction with
  | buy =>
    rw [balancesAfter_buy h, Prod.mk.injEq]
    exact and_congr eq_comm eq_comm
  | sell =>
    rw [balancesAfter_sell h, Prod.mk.injEq, and_comm]
    exact and_congr eq_comm eq_comm

theorem exists_settle_of_le (hquote : pool.quote direction offered floor = .ok fill)
    (h : (pool.intake direction).val + fill.paid ≤ maxWord) :
    ∃ next, pool.settle fill = .ok next := by
  obtain ⟨hdirection, hpaid, hreceived, hle⟩ := quote_bounds hquote
  have hword := (pool.reserve direction).val_le
  cases direction with
  | buy =>
    simp only [intake, reserve] at h hle hword
    exact exists_settle_of_balances (balancesAfter_buy hdirection) (by omega) (by omega)
  | sell =>
    simp only [intake, reserve] at h hle hword
    exact exists_settle_of_balances (balancesAfter_sell hdirection) (by omega) (by omega)

theorem settle_of_lt (hquote : pool.quote direction offered floor = .ok fill)
    (h : maxWord < (pool.intake direction).val + fill.paid) :
    pool.settle fill = .error (.calculation
      (.outOfRange direction.credited ((pool.intake direction).val + fill.paid))) := by
  obtain ⟨hdirection, hpaid, hreceived, hle⟩ := quote_bounds hquote
  cases direction with
  | buy =>
    simp only [intake, reserve] at h hle ⊢
    have hcovered : ¬ ((pool.collateral.val : ℤ) + fill.paid < 0 ∨
        (pool.bonded.val : ℤ) - fill.received < 0) := by omega
    simp only [settle, balancesAfter_buy hdirection, if_neg hcovered, ofBalances,
      admitAmount_of_lt _ h, error_bind, Direction.credited]
  | sell =>
    simp only [intake, reserve] at h hle ⊢
    have hcovered : ¬ ((pool.collateral.val : ℤ) - fill.received < 0 ∨
        (pool.bonded.val : ℤ) + fill.paid < 0) := by omega
    have hword := pool.collateral.val_le
    obtain ⟨left, hleft⟩ := exists_admitAmount .collateral
      (n := pool.collateral.val - fill.received) (by omega) (by omega)
    -- The collateral is looked at first, and is in range.
    simp only [settle, balancesAfter_sell hdirection, if_neg hcovered, ofBalances, hleft, ok_bind,
      admitAmount_of_lt _ h, error_bind, Direction.credited]

theorem exists_settle_iff (h : pool.quote direction offered floor = .ok fill) :
    (∃ next, pool.settle fill = .ok next) ↔
      (pool.intake direction).val + fill.paid ≤ maxWord := by
  refine ⟨fun ⟨next, hnext⟩ => ?_, exists_settle_of_le h⟩
  by_contra hlt
  have hfail := settle_of_lt h (not_le.mp hlt)
  rw [hnext] at hfail
  cases hfail

theorem settle_eq_error_iff (h : pool.quote direction offered floor = .ok fill) :
    pool.settle fill = .error cause ↔
      maxWord < (pool.intake direction).val + fill.paid ∧
        cause = .calculation
          (.outOfRange direction.credited ((pool.intake direction).val + fill.paid)) := by
  by_cases hlt : maxWord < (pool.intake direction).val + fill.paid
  · rw [settle_of_lt h hlt, Except.error.injEq, and_iff_right hlt, eq_comm]
  · obtain ⟨next, hnext⟩ := exists_settle_of_le h (not_lt.mp hlt)
    simp [hnext, hlt]

theorem trade_eq_error_iff :
    pool.trade direction offered floor = .error cause ↔
      pool.quote direction offered floor = .error cause ∨
        ∃ fill, pool.quote direction offered floor = .ok fill ∧
          maxWord < (pool.intake direction).val + fill.paid ∧
          cause = .calculation
            (.outOfRange direction.credited ((pool.intake direction).val + fill.paid)) := by
  rw [trade, bind_eq_error_iff]
  refine or_congr_right (exists_congr fun fill => and_congr_right fun hquote => ?_)
  rw [bind_eq_error_iff, ← settle_eq_error_iff hquote]
  constructor
  · rintro (h | ⟨next, -, h⟩)
    · exact h
    · cases h
  · exact Or.inl

/-- An accepted fill moves what it says between the two balances, unless the balance it is paid into comes to
more than a word. So a trade fails only where its quote does or for that reason. -/
theorem quote_settles_iff (pool : Pool) (direction : Direction) (offered floor : ℤ) :
    (∀ fill, pool.quote direction offered floor = .ok fill →
      (0 < fill.received ∧ fill.received ≤ (pool.reserve direction).val) ∧
      (∀ next, pool.settle fill = .ok next ↔ next.curve = pool.curve ∧
        (next.intake direction).val = (pool.intake direction).val + fill.paid ∧
        (next.reserve direction).val = (pool.reserve direction).val - fill.received) ∧
      ((∃ next, pool.settle fill = .ok next) ↔
        (pool.intake direction).val + fill.paid ≤ maxWord) ∧
      ∀ cause, pool.settle fill = .error cause ↔
        maxWord < (pool.intake direction).val + fill.paid ∧
          cause = .calculation
            (.outOfRange direction.credited ((pool.intake direction).val + fill.paid))) ∧
    ∀ cause, pool.trade direction offered floor = .error cause ↔
      pool.quote direction offered floor = .error cause ∨
        ∃ fill, pool.quote direction offered floor = .ok fill ∧
          maxWord < (pool.intake direction).val + fill.paid ∧
          cause = .calculation
            (.outOfRange direction.credited ((pool.intake direction).val + fill.paid)) := by
  refine ⟨fun fill hquote => ?_, fun _ => trade_eq_error_iff⟩
  obtain ⟨hdirection, -, hreceived⟩ := quote_bounds hquote
  exact ⟨hreceived, fun _ => settle_eq_ok_iff_moved hdirection, exists_settle_iff hquote,
    fun _ => settle_eq_error_iff hquote⟩

theorem quote_settles_sample :
    Genesis.sample.pool.quote .buy 240000000000 0 = .ok ⟨.buy, 240000000000, 4000000000, false⟩ ∧
      ∃ next, Genesis.sample.pool.settle ⟨.buy, 240000000000, 4000000000, false⟩ = .ok next ∧
        next.collateral.val = 240000000000 ∧ next.bonded.val = 46000000000 := by
  have hquote : Genesis.sample.pool.quote .buy 240000000000 0 =
      .ok ⟨.buy, 240000000000, 4000000000, false⟩ := by
    decide +kernel
  obtain ⟨hfill, -⟩ := quote_settles_iff Genesis.sample.pool .buy 240000000000 0
  obtain ⟨-, hmoved, hsettles, -⟩ := hfill _ hquote
  obtain ⟨next, hnext⟩ := hsettles.mpr (by decide)
  obtain ⟨-, hcollateral, hbonded⟩ := (hmoved next).mp hnext
  exact ⟨hquote, next, hnext, Int.ofNat_inj.mp hcollateral, Int.ofNat_inj.mp hbonded⟩

/-- A pool that holds every token there can be has no room for one more. -/
theorem quote_not_settled :
    (Pool.mk Genesis.sample.curve ⟨51, by decide⟩ ⟨maxWord, le_rfl⟩).quote .sell 1 0 =
        .ok ⟨.sell, 1, 50, false⟩ ∧
      (Pool.mk Genesis.sample.curve ⟨51, by decide⟩ ⟨maxWord, le_rfl⟩).settle
          ⟨.sell, 1, 50, false⟩ =
        .error (.calculation (.outOfRange .bonded 18446744073709551616)) ∧
      (Pool.mk Genesis.sample.curve ⟨51, by decide⟩ ⟨maxWord, le_rfl⟩).trade .sell 1 0 =
        .error (.calculation (.outOfRange .bonded 18446744073709551616)) := by
  refine ⟨?_, ?_, ?_⟩ <;> decide +kernel

end Pool

end BondingPool
