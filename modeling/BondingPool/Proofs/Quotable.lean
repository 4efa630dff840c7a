import BondingPool.Proofs.Failure
import BondingPool.Proofs.Solvency

/-!
# Which pools can be quoted

A pool answers what it sold, what the next token costs and what it holds unless the position of its
collateral is degenerate, and nothing else can keep it from answering. A sell of all that is outstanding is
not turned down for its balances either, since it is covered. So whether the holders of tokens can be quoted
depends on the line and the collateral only, and on most lines it is never in doubt.
-/

namespace BondingPool

namespace PriceLine

variable {line : PriceLine} {b : Fixed}

theorem exists_priceAt (h : b.raw * line.slope.num.val ≤ maxRaw / 2) (r : Rounding) :
    ∃ p, line.priceAt b r = .ok p := by
  have hrise := (divRounded_le_self r _ line.slope.den.val).trans h
  have hbase : line.baseRaw r ≤ maxRaw / 2 := (line.baseRaw_le r).trans (by decide)
  have hsum : line.priceRaw b.raw r ≤ maxRaw := by
    rw [priceRaw]
    omega
  exact ⟨⟨_, hsum⟩, priceAt_eq_ok_iff.mpr ⟨h.trans (Nat.div_le_self _ _), rfl⟩⟩

theorem not_degenerate_of_le (h : line.base.den.val ≤ line.base.num.val * scale ∨
    line.slope.den.val ≤ 2 * line.slope.num.val * scale) (n : ℕ) : ¬ line.Degenerate n := by
  rintro ⟨hpos, hbase, hslope⟩
  rcases h with h | h
  · omega
  · have hmul := Nat.le_mul_of_pos_left (2 * line.slope.num.val * scale) hpos
    have he : n * (2 * line.slope.num.val * scale) = 2 * n * line.slope.num.val * scale := by ring
    omega

theorem not_squareOverflows_of_le (h : line.slope.num.val ≠ 0 ∨
    line.base.den.val ≤ line.base.num.val * rootScale) (R a : Word) :
    ¬ line.SquareOverflows R.val a.val := by
  rintro ⟨hflat, held, sold, offer, hheld, hsold, -, hlt⟩
  have hbase := h.resolve_left (not_not_intro hflat)
  have hx : held.raw ≤ maxPooled :=
    (Fixed.ofInt_eq_ok_iff.mp hheld).trans_le R.mul_scale_le_maxPooled
  have hd : rootScale ≤ line.divisorRaw held.raw .down := by
    refine le_trans ?_ (Nat.le_add_right _ _)
    apply (le_divRounded_down_iff line.base.den_pos).mpr
    rw [mul_comm, ← rootScale_mul_rootScale, ← mul_assoc]
    exact Nat.mul_le_mul_right rootScale hbase
  have hv : (sold.excess offer).raw ≤ line.soldRaw held.raw .up :=
    (Nat.sub_le _ _).trans (soldAt_raw hsold).le
  exact Nat.not_lt.mpr (square_le_of_rootScale_le hx (fun _ => hd) hv) hlt

end PriceLine

namespace Curve

variable {curve : Curve} {collateral : Word} {cause : Rejection}

theorem sold_eq_ok_iff {position : Fixed} :
    curve.sold collateral = .ok position ↔
      ∃ held, held.raw = collateral.val * scale ∧ curve.line.soldAt held .up = .ok position := by
  simp only [sold, mapError_eq_ok_iff, bind_eq_ok_iff, Fixed.ofInt_eq_ok_iff]

theorem sold_eq_error_iff :
    curve.sold collateral = .error cause ↔
      cause = .calculation (.arithmetic .degenerateSolve) ∧
        curve.line.Degenerate collateral.val := by
  by_cases h : curve.line.Degenerate collateral.val
  · obtain ⟨held, hheld, hsold⟩ := PriceLine.sold_eq_degenerate h
    have hsold' : curve.sold collateral = .error (.calculation (.arithmetic .degenerateSolve)) := by
      rw [sold, hheld, ok_bind, hsold]
      rfl
    simp [hsold', h, eq_comm]
  · obtain ⟨held, position, -, hraw, hsold⟩ := PriceLine.exists_sold h
    have hsold' : curve.sold collateral = .ok position := sold_eq_ok_iff.mpr ⟨held, hraw, hsold⟩
    simp [hsold', h]

theorem exists_spotPrice (h : ¬ curve.line.Degenerate collateral.val) :
    ∃ p, curve.spotPrice collateral = .ok p := by
  obtain ⟨held, position, -, hraw, hsold⟩ := PriceLine.exists_sold h
  have hx : held.raw ≤ maxPooled := hraw ▸ collateral.mul_scale_le_maxPooled
  obtain ⟨p, hp⟩ := PriceLine.exists_priceAt
    (PriceLine.mul_word_le hx (PriceLine.soldAt_raw hsold).le curve.line.slope.num) .down
  refine ⟨p, bind_eq_ok_iff.mpr ⟨position, sold_eq_ok_iff.mpr ⟨held, hraw, hsold⟩, ?_⟩⟩
  exact mapError_eq_ok_iff.mpr hp

theorem spotPrice_eq_error_iff :
    curve.spotPrice collateral = .error cause ↔
      cause = .calculation (.arithmetic .degenerateSolve) ∧
        curve.line.Degenerate collateral.val := by
  by_cases h : curve.line.Degenerate collateral.val
  · have hsold : curve.sold collateral = .error (.calculation (.arithmetic .degenerateSolve)) :=
      sold_eq_error_iff.mpr ⟨rfl, h⟩
    have hprice : curve.spotPrice collateral = .error (.calculation (.arithmetic .degenerateSolve)) :=
      bind_eq_error_iff.mpr (Or.inl hsold)
    simp [hprice, h, eq_comm]
  · obtain ⟨p, hp⟩ := exists_spotPrice h
    simp [hp, h]

theorem quote_eq_calculation_iff {direction : Direction} {bonded offered floor : Word}
    {cause : CalculationFault} (hfree : curve.fees.isFree = true) (hpos : 0 < offered.val) :
    curve.quote direction collateral.val bonded.val offered.val floor.val =
        .error (.calculation cause) ↔
      curve.line.swap direction collateral.val bonded.val offered.val =
        .error (.calculation cause) := by
  rw [quote_eq_trade, trade, Fees.requireFree, if_pos hfree, ok_bind, if_neg hpos.ne',
    bind_eq_error_iff]
  constructor
  · rintro (h | ⟨fill, -, h⟩)
    · exact h
    · split at h <;> cases h
  · exact Or.inl

end Curve

namespace Pool

variable {pool : Pool} {cause : Rejection}

theorem report_eq_error_iff :
    pool.report = .error cause ↔
      cause = .calculation (.arithmetic .degenerateSolve) ∧
        pool.curve.line.Degenerate pool.collateral.val := by
  rw [report, bind_eq_error_iff, Pool.sold, Curve.sold_eq_error_iff]
  constructor
  · rintro (h | ⟨sold, -, h⟩)
    · exact h
    · cases h
  · exact Or.inl

theorem exists_settle_of_buy {a : ℕ} {fill : Fill}
    (h : pool.curve.line.swap .buy pool.collateral.val pool.bonded.val a = .ok fill)
    (hfits : pool.collateral.val + fill.paid ≤ maxWord) : ∃ next, pool.settle fill = .ok next := by
  obtain ⟨hdirection, hpaid, -, hreceived, hle, -⟩ := PriceLine.swap_buy_bounds h
  have hword := pool.bonded.val_le
  exact exists_settle_of_balances (balancesAfter_buy hdirection) (by omega) (by omega)

theorem exists_settle_of_sell {a : ℕ} {fill : Fill}
    (h : pool.curve.line.swap .sell pool.collateral.val pool.bonded.val a = .ok fill)
    (hfits : pool.bonded.val + fill.paid ≤ maxWord) : ∃ next, pool.settle fill = .ok next := by
  obtain ⟨hdirection, hpaid, -, hreceived, hle, -⟩ := PriceLine.swap_sell_bounds h
  have hword := pool.collateral.val_le
  exact exists_settle_of_balances (balancesAfter_sell hdirection) (by omega) (by omega)

end Pool

namespace Genesis

variable {g : Genesis} {pool last : Pool} {offers : List Offer} {trades : List Trade}

theorem Backed.exists_outstanding (h : g.Backed pool) :
    ∃ o : Word, pool.outstanding g.supply = o.val := by
  have hle := h.bonded_le
  have hword := g.supply.val_le
  refine ⟨⟨g.supply.val - pool.bonded.val, by omega⟩, ?_⟩
  rw [Pool.outstanding]
  simp only
  omega

theorem Backed.line_eq (h : g.Backed pool) : pool.curve.line = g.line := by
  rw [h.keeps.curve_eq]
  rfl

theorem Backed.isFree (h : g.Backed pool) : pool.curve.fees.isFree = true := by
  rw [h.keeps.curve_eq]
  exact g.fees_free

theorem Backed.exists_settle {o : Word} {fill : Fill} (h : g.Backed pool)
    (ho : pool.outstanding g.supply = o.val)
    (hswap : pool.curve.line.swap .sell pool.collateral.val pool.bonded.val o.val = .ok fill) :
    ∃ next, pool.settle fill = .ok next := by
  have hcovers := covers_outstanding h.keeps
  rw [ho, ← h.line_eq] at hcovers
  obtain ⟨-, hpaid⟩ := hcovers.not_capped hswap (by simp)
  have hword := g.supply.val_le
  rw [Pool.outstanding] at ho
  exact Pool.exists_settle_of_sell hswap (by omega)

theorem Backed.trade_eq_calculation_iff {o floor : Word} {cause : CalculationFault}
    (h : g.Backed pool) (ho : pool.outstanding g.supply = o.val) (hpos : 0 < o.val) :
    pool.trade .sell o.val floor.val = .error (.calculation cause) ↔
      pool.curve.line.swap .sell pool.collateral.val pool.bonded.val o.val =
        .error (.calculation cause) := by
  rw [Pool.trade, bind_eq_error_iff, Pool.quote, Curve.quote_eq_calculation_iff h.isFree hpos]
  refine or_iff_left ?_
  rintro ⟨fill, hquote, hsettle⟩
  obtain ⟨o', f, hoffered, -, htrade⟩ := Curve.quote_eq_ok_iff.mp hquote
  obtain rfl : o = o' := Word.ext_val (by exact_mod_cast hoffered)
  obtain ⟨-, -, hswap, -⟩ := Curve.trade_eq_ok_iff.mp htrade
  obtain ⟨next, hnext⟩ := h.exists_settle ho hswap
  rw [bind_eq_error_iff, hnext] at hsettle
  rcases hsettle with hs | ⟨next, -, hs⟩
  · cases hs
  · cases hs

/-- A pool that trades from its genesis answers unless its position is degenerate, and then the sell of all
that is outstanding is refused only if it overflows on a flat line. Lines above precision do neither. -/
theorem run_quotable_iff (h : g.pool.run offers = .ok (trades, last))
    (hsell : ∀ t ∈ trades, t.offer.direction = .sell →
      t.offer.amount ≤ t.before.outstanding g.supply) :
    (∀ cause, last.sold = .error cause ↔
      cause = .calculation (.arithmetic .degenerateSolve) ∧
        g.line.Degenerate last.collateral.val) ∧
    (∀ cause, last.spotPrice = .error cause ↔
      cause = .calculation (.arithmetic .degenerateSolve) ∧
        g.line.Degenerate last.collateral.val) ∧
    (∀ cause, last.report = .error cause ↔
      cause = .calculation (.arithmetic .degenerateSolve) ∧
        g.line.Degenerate last.collateral.val) ∧
    (0 < last.outstanding g.supply → ∀ (floor : Word) (cause : CalculationFault),
      last.trade .sell (last.outstanding g.supply) floor.val = .error (.calculation cause) ↔
        cause = .arithmetic .degenerateSolve ∧ g.line.Degenerate last.collateral.val ∨
          cause = .arithmetic .productTooLarge ∧
            g.line.SquareOverflows last.collateral.val (last.outstanding g.supply).toNat) ∧
    (g.line.base.den.val ≤ g.line.base.num.val * scale ∨
        g.line.slope.den.val ≤ 2 * g.line.slope.num.val * scale →
      (∃ position, last.sold = .ok position) ∧ (∃ price, last.spotPrice = .ok price) ∧
      (∃ report, last.report = .ok report) ∧
      (g.line.slope.num.val ≠ 0 ∨ g.line.base.den.val ≤ g.line.base.num.val * rootScale →
        0 < last.outstanding g.supply → ∀ (floor : Word) (cause : CalculationFault),
          last.trade .sell (last.outstanding g.supply) floor.val ≠ .error (.calculation cause))) := by
  obtain ⟨hbacked, -⟩ := run_backed h hsell
  obtain ⟨o, ho⟩ := hbacked.exists_outstanding
  have hexit (hpos : 0 < last.outstanding g.supply) (floor : Word) (cause : CalculationFault) :
      last.trade .sell (last.outstanding g.supply) floor.val = .error (.calculation cause) ↔
        cause = .arithmetic .degenerateSolve ∧ last.curve.line.Degenerate last.collateral.val ∨
          cause = .arithmetic .productTooLarge ∧
            last.curve.line.SquareOverflows last.collateral.val
              (last.outstanding g.supply).toNat := by
    rw [ho] at hpos ⊢
    rw [hbacked.trade_eq_calculation_iff ho (by exact_mod_cast hpos), Int.toNat_natCast,
      PriceLine.swap_sell_eq_calculation_iff]
  rw [← hbacked.line_eq]
  refine ⟨fun _ => Curve.sold_eq_error_iff, fun _ => Curve.spotPrice_eq_error_iff,
    fun _ => Pool.report_eq_error_iff, hexit, fun hprecise => ?_⟩
  have hnot := PriceLine.not_degenerate_of_le hprecise last.collateral.val
  refine ⟨exists_eq_ok fun _ he => hnot (Curve.sold_eq_error_iff.mp he).2,
    exists_eq_ok fun _ he => hnot (Curve.spotPrice_eq_error_iff.mp he).2,
    exists_eq_ok fun _ he => hnot (Pool.report_eq_error_iff.mp he).2,
    fun hsteady hpos floor cause he => ?_⟩
  rcases (hexit hpos floor cause).mp he with ⟨-, hd⟩ | ⟨-, hover⟩
  · exact hnot hd
  · rw [ho, Int.toNat_natCast] at hover
    exact PriceLine.not_squareOverflows_of_le hsteady last.collateral o hover

theorem run_quotable_sample :
    ∃ trades last, sample.pool.run
        [⟨.buy, 240000000000, 0⟩, ⟨.sell, 3000000000, 0⟩, ⟨.buy, 5000, 0⟩] = .ok (trades, last) ∧
      (∃ position, last.sold = .ok position) ∧ (∃ price, last.spotPrice = .ok price) ∧
      (∃ report, last.report = .ok report) ∧
      ∀ (floor : Word) (cause : CalculationFault),
        last.trade .sell (last.outstanding sample.supply) floor.val ≠
          .error (.calculation cause) := by
  obtain ⟨trades, last, h, hpos, hsell⟩ := sample_run
  obtain ⟨-, -, -, -, hprecise⟩ := run_quotable_iff h hsell
  obtain ⟨hsold, hprice, hreport, hexit⟩ := hprecise (by decide)
  exact ⟨trades, last, h, hsold, hprice, hreport, hexit (by decide) hpos⟩

/-- Neither exception is empty: one accepted buy leads to a pool that answers nothing, and three lead to
one that cannot take back what it sold. -/
theorem run_locked :
    (∃ trades last, shallow.pool.run [⟨.buy, 1, 0⟩] = .ok (trades, last) ∧
      (∀ t ∈ trades, t.offer.direction = .sell →
        t.offer.amount ≤ t.before.outstanding shallow.supply) ∧
      last.sold = .error (.calculation (.arithmetic .degenerateSolve)) ∧
      last.spotPrice = .error (.calculation (.arithmetic .degenerateSolve)) ∧
      last.report = .error (.calculation (.arithmetic .degenerateSolve)) ∧
      last.outstanding shallow.supply = 2000000000 ∧
      last.trade .sell 2000000000 0 = .error (.calculation (.arithmetic .degenerateSolve))) ∧
    ∃ trades last, cheapest.pool.run
        [⟨.buy, 1, 0⟩, ⟨.buy, 1000000001, 0⟩, ⟨.buy, 1000000002000000001, 0⟩] =
          .ok (trades, last) ∧
      (∀ t ∈ trades, t.offer.direction = .sell →
        t.offer.amount ≤ t.before.outstanding cheapest.supply) ∧
      last.outstanding cheapest.supply = 5999999994 ∧
      last.trade .sell 5999999994 0 = .error (.calculation (.arithmetic .productTooLarge)) := by
  constructor
  · refine ⟨_, _, rfl, ?_, ?_, ?_, ?_, ?_, ?_⟩ <;> decide +kernel
  · refine ⟨_, _, rfl, ?_, ?_, ?_⟩ <;> decide +kernel

end Genesis

end BondingPool
