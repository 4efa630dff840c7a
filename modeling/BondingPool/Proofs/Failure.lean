import BondingPool.Proofs.Magnitude
import BondingPool.Proofs.Sizing

/-!
# When a swap cannot be calculated

Of all the checks that a swap passes two can fail. The position of a small collateral has no divisor on a
line whose terms both fall below precision, and the square of a position that a sell leaves may be too
large on a flat line. Every other sum, product, quotient and root of a swap between words exists.
-/

namespace BondingPool

open Fixed (Failure)

theorem Word.exists_ofInt (w : Word) : ∃ x, Fixed.ofInt w.val = .ok x ∧ x.raw = w.val * scale :=
  ⟨⟨w.val * scale, w.mul_scale_le⟩, Fixed.ofInt_eq_ok_iff.mpr rfl, rfl⟩

theorem Word.exists_ofInt_add (v w : Word) :
    ∃ x, Fixed.ofInt ((v.val : ℤ) + w.val) = .ok x ∧ x.raw ≤ maxPooled := by
  have hle := v.add_mul_scale_le_maxPooled w
  refine ⟨⟨(v.val + w.val) * scale, hle.trans (by decide)⟩, ?_, hle⟩
  rw [← Nat.cast_add]
  exact Fixed.ofInt_eq_ok_iff.mpr rfl

namespace PriceLine

variable {line : PriceLine} {R B a : Word} {demand : Demand} {failure : Failure}

/-- Both terms of the line are below precision, the slope even times this collateral. -/
def Degenerate (line : PriceLine) (collateral : ℕ) : Prop :=
  0 < collateral ∧ line.base.num.val * scale < line.base.den.val ∧
    2 * collateral * line.slope.num.val * scale < line.slope.den.val

instance (line : PriceLine) (collateral : ℕ) : Decidable (line.Degenerate collateral) :=
  inferInstanceAs (Decidable (_ ∧ _ ∧ _))

/-- The line is flat and the square of the position that a sell leaves has no fixed-point number. -/
def SquareOverflows (line : PriceLine) (collateral offered : ℕ) : Prop :=
  line.slope.num.val = 0 ∧ ∃ held sold offer : Fixed, Fixed.ofInt collateral = .ok held ∧
    line.soldAt held .up = .ok sold ∧ Fixed.ofInt offered = .ok offer ∧
    maxRaw < divRounded .up ((sold.excess offer).raw * (sold.excess offer).raw) scale

theorem degenerate_iff {n : ℕ} :
    line.Degenerate n ↔ 0 < n ∧ line.divisorRaw (n * scale) .down = 0 := by
  have he : n * scale * (2 * line.slope.num.val) = 2 * n * line.slope.num.val * scale := by ring
  rw [Degenerate, divisorRaw_down_eq_zero_iff, he]

theorem divisorRaw_ne_zero (h : ¬ line.Degenerate R.val) (h0 : R.val * scale ≠ 0) :
    line.divisorRaw (R.val * scale) .down ≠ 0 := by
  intro hd
  exact h (degenerate_iff.mpr ⟨Nat.pos_of_ne_zero (left_ne_zero_of_mul h0), hd⟩)

theorem exists_sold (h : ¬ line.Degenerate R.val) :
    ∃ held sold, Fixed.ofInt R.val = .ok held ∧ held.raw = R.val * scale ∧
      line.soldAt held .up = .ok sold := by
  obtain ⟨held, hheld, hraw⟩ := R.exists_ofInt
  have hx : held.raw ≤ maxPooled := hraw ▸ R.mul_scale_le_maxPooled
  obtain ⟨sold, hsold, -⟩ := exists_soldAt (r := .up) hx
    (by rw [hraw]; exact divisorRaw_ne_zero h)
  exact ⟨held, sold, hheld, hraw, hsold⟩

theorem exists_reach (line : PriceLine) {x : Fixed} (hx : x.raw ≤ maxPooled) :
    ∃ reach, line.soldAt x .down = .ok reach := by
  obtain ⟨reach, hreach, -⟩ := exists_soldAt (r := .down) hx line.divisorRaw_up_ne_zero
  exact ⟨reach, hreach⟩

theorem sold_eq_degenerate (h : line.Degenerate R.val) :
    ∃ held, Fixed.ofInt R.val = .ok held ∧ line.soldAt held .up = .error .degenerateSolve := by
  obtain ⟨hpos, hd⟩ := degenerate_iff.mp h
  obtain ⟨held, hheld, hraw⟩ := R.exists_ofInt
  have hx : held.raw ≤ maxPooled := hraw ▸ R.mul_scale_le_maxPooled
  refine ⟨held, hheld, soldAt_eq_degenerate hx ?_ ?_⟩
  · rw [hraw]
    exact (Nat.mul_pos hpos scale_pos).ne'
  · rwa [hraw]

/-! ### Buys -/

theorem exists_demand (h : ¬ line.Degenerate R.val) (a : Word) :
    ∃ demand, line.demand R.val a.val = .ok demand := by
  obtain ⟨held, sold, -, hheld, hsold⟩ := exists_sold h
  have hafter : (R.val + a.val) * scale ≤ maxPooled := R.add_mul_scale_le_maxPooled a
  obtain ⟨reach, hreach⟩ := line.exists_reach (x := ⟨_, hafter.trans (by decide)⟩) hafter
  refine ⟨⟨held, sold, (reach.excess sold).toInteger .down⟩, demand_eq_ok_iff.mpr ?_⟩
  exact ⟨_, reach, hheld, rfl, hsold, hreach, rfl⟩

theorem exists_meet (h : line.demand R.val a.val = .ok demand) (B : Word) :
    ∃ s, line.meet demand B.val a.val = .ok s := by
  obtain ⟨after, reach, -, hafter, -, hreach, hwanted⟩ := demand_eq_ok_iff.mp h
  by_cases hle : demand.wanted ≤ B.val
  · exact ⟨_, meet_eq_ok_iff.mpr (Or.inl ⟨hle, rfl⟩)⟩
  · have hlt := Nat.not_le.mp hle
    have hx : after.raw ≤ maxPooled := hafter ▸ R.add_mul_scale_le_maxPooled a
    -- a capped buy ends before its reach, whose collateral can be computed
    have hstop : demand.sold.raw + B.val * scale ≤ reach.raw := by
      have hfloor := (Fixed.le_toInteger_excess_iff (Nat.zero_lt_of_lt hlt)).mp hwanted.le
      have hmul := Nat.mul_le_mul_right scale hlt.le
      omega
    have hv := hstop.trans (soldAt_raw hreach).le
    obtain ⟨full, hfull⟩ := exists_collateralAt
      (b := ⟨demand.sold.raw + B.val * scale, hstop.trans reach.raw_le⟩) (r := .up)
      (square_le_of_rootScale_le hx line.rootScale_le_divisorRaw_up hv)
      (quadratic_le_of_le_reach hx hv) (mul_word_le hx hv line.base.num)
    exact ⟨_, meet_eq_ok_iff.mpr (Or.inr ⟨hlt, _, full, rfl, hfull, rfl⟩)⟩

theorem sizeBuy_eq_error_iff :
    line.sizeBuy R.val B.val a.val = .error failure ↔
      failure = .degenerateSolve ∧ line.Degenerate R.val := by
  by_cases h : line.Degenerate R.val
  · obtain ⟨held, hheld, hsold⟩ := sold_eq_degenerate h
    have hsize : line.sizeBuy R.val B.val a.val = .error .degenerateSolve := by
      rw [sizeBuy, PriceLine.demand, hheld, ok_bind, hsold, error_bind, error_bind]
    simp [hsize, h, eq_comm]
  · obtain ⟨demand, hdemand⟩ := exists_demand h a
    obtain ⟨s, hs⟩ := exists_meet hdemand B
    simp [sizeBuy, hdemand, ok_bind, hs, h]

/-! ### Sells -/

theorem sizeSell_eq_error_iff_of_sold {R a : ℤ} {held sold offer : Fixed}
    (hheld : Fixed.ofInt R = .ok held) (hsold : line.soldAt held .up = .ok sold)
    (hoffer : Fixed.ofInt a = .ok offer) :
    line.sizeSell R a = .error failure ↔
      line.collateralAt (sold.excess offer) .up = .error failure := by
  rw [sizeSell, hheld, ok_bind, hsold, ok_bind, hoffer, ok_bind, bind_eq_error_iff]
  constructor
  · rintro (h | ⟨kept, -, h⟩)
    · exact h
    · split at h <;> cases h
  · exact Or.inl

theorem squareOverflows_iff {held sold offer : Fixed} (hheld : Fixed.ofInt R.val = .ok held)
    (hsold : line.soldAt held .up = .ok sold) (hoffer : Fixed.ofInt a.val = .ok offer) :
    line.SquareOverflows R.val a.val ↔
      line.slope.num.val = 0 ∧ maxRaw < squareRaw (sold.excess offer).raw .up := by
  refine and_congr_right fun _ => ⟨?_, fun h => ⟨held, sold, offer, hheld, hsold, hoffer, h⟩⟩
  rintro ⟨held', sold', offer', hheld', hsold', hoffer', h⟩
  obtain rfl := Except.ok.inj (hheld.symm.trans hheld')
  obtain rfl := Except.ok.inj (hsold.symm.trans hsold')
  obtain rfl := Except.ok.inj (hoffer.symm.trans hoffer')
  exact h

theorem not_squareOverflows_of_degenerate (h : line.Degenerate R.val) :
    ¬ line.SquareOverflows R.val a.val := by
  rintro ⟨-, held, sold, offer, hheld, hsold, -⟩
  obtain ⟨held', hheld', hfail⟩ := sold_eq_degenerate h
  obtain rfl := Except.ok.inj (hheld.symm.trans hheld')
  rw [hfail] at hsold
  cases hsold

theorem square_le_of_quadratic_le {n : ℕ} (h : n * line.slope.num.val ≤ maxRaw / 2)
    (hlt : maxRaw < n) : line.slope.num.val = 0 := by
  by_contra h0
  have hmul := Nat.le_mul_of_pos_right n (Nat.pos_of_ne_zero h0)
  omega

theorem sizeSell_eq_error_iff :
    line.sizeSell R.val a.val = .error failure ↔
      failure = .degenerateSolve ∧ line.Degenerate R.val ∨
        failure = .productTooLarge ∧ line.SquareOverflows R.val a.val := by
  by_cases h : line.Degenerate R.val
  · obtain ⟨held, hheld, hsold⟩ := sold_eq_degenerate h
    have hsize : line.sizeSell R.val a.val = .error .degenerateSolve := by
      rw [sizeSell, hheld, ok_bind, hsold, error_bind]
    simp [hsize, h, not_squareOverflows_of_degenerate h, eq_comm]
  · obtain ⟨held, sold, hheld, hraw, hsold⟩ := exists_sold h
    obtain ⟨offer, hoffer, -⟩ := a.exists_ofInt
    have hx : held.raw ≤ maxWord * scale := by
      rw [hraw]
      exact Nat.mul_le_mul_right scale R.val_le
    have hv : (sold.excess offer).raw ≤ line.soldRaw held.raw .up :=
      (Nat.sub_le _ _).trans (soldAt_raw hsold).le
    have hquadratic := quadratic_le_of_le_sold hx hv
    have hlinear := mul_word_le (hx.trans (by decide)) hv line.base.num
    rw [sizeSell_eq_error_iff_of_sold hheld hsold hoffer,
      collateralAt_eq_error_iff hquadratic hlinear, squareOverflows_iff hheld hsold hoffer]
    simp only [h, and_false, false_or]
    constructor
    · rintro ⟨hlt, hfailure⟩
      exact ⟨hfailure, square_le_of_quadratic_le hquadratic hlt, hlt⟩
    · rintro ⟨hfailure, -, hlt⟩
      exact ⟨hlt, hfailure⟩

theorem swap_buy_eq_calculation_iff {cause : CalculationFault} :
    line.swap .buy R.val B.val a.val = .error (.calculation cause) ↔
      cause = .arithmetic .degenerateSolve ∧ line.Degenerate R.val := by
  rw [swap_eq_calculation_iff]
  simp only [size, sizeBuy_eq_error_iff]
  constructor
  · rintro ⟨failure, ⟨rfl, h⟩, rfl⟩
    exact ⟨rfl, h⟩
  · rintro ⟨rfl, h⟩
    exact ⟨_, ⟨rfl, h⟩, rfl⟩

theorem swap_sell_eq_calculation_iff {cause : CalculationFault} :
    line.swap .sell R.val B.val a.val = .error (.calculation cause) ↔
      cause = .arithmetic .degenerateSolve ∧ line.Degenerate R.val ∨
        cause = .arithmetic .productTooLarge ∧ line.SquareOverflows R.val a.val := by
  rw [swap_eq_calculation_iff]
  simp only [size, sizeSell_eq_error_iff]
  constructor
  · rintro ⟨failure, ⟨rfl, h⟩ | ⟨rfl, h⟩, rfl⟩
    · exact Or.inl ⟨rfl, h⟩
    · exact Or.inr ⟨rfl, h⟩
  · rintro (⟨rfl, h⟩ | ⟨rfl, h⟩)
    · exact ⟨_, Or.inl ⟨rfl, h⟩, rfl⟩
    · exact ⟨_, Or.inr ⟨rfl, h⟩, rfl⟩

theorem swap_fails_iff (line : PriceLine) (R B a : Word) (cause : CalculationFault) :
    (line.swap .buy R.val B.val a.val = .error (.calculation cause) ↔
      cause = .arithmetic .degenerateSolve ∧ line.Degenerate R.val) ∧
    (line.swap .sell R.val B.val a.val = .error (.calculation cause) ↔
      cause = .arithmetic .degenerateSolve ∧ line.Degenerate R.val ∨
        cause = .arithmetic .productTooLarge ∧ line.SquareOverflows R.val a.val) :=
  ⟨swap_buy_eq_calculation_iff, swap_sell_eq_calculation_iff⟩

end PriceLine

end BondingPool
