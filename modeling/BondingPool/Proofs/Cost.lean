import Mathlib.Algebra.Order.Archimedean.Basic
import BondingPool.PriceLine.Position
import BondingPool.Proofs.Position

/-!
# Rounded positions against the exact cost

The cost of a position rises strictly with it. The position recovered from a collateral costs no more
than that collateral when it was rounded down and no less when it was rounded up, and the collateral
computed for a position lies on the same side of its cost, a few of its smallest units off. All later
bounds on trades compare costs.
-/

namespace BondingPool

theorem Ratio.value_nonneg (q : Ratio) : 0 ≤ q.value :=
  div_nonneg (Nat.cast_nonneg _) (Nat.cast_nonneg _)

namespace PriceLine

variable {line : PriceLine} {b c x : Fixed} {r : Rounding} {y z : ℚ}

theorem cost_eq (line : PriceLine) (y : ℚ) :
    line.cost y = line.slope.value / 2 * (y * y) + line.base.value * y := by
  unfold cost Ratio.value
  field_simp

@[simp]
theorem cost_zero (line : PriceLine) : line.cost 0 = 0 := by simp [cost]

theorem ratio_pos (line : PriceLine) : 0 < line.slope.value ∨ 0 < line.base.value := by
  have hs : (0 : ℚ) < line.slope.den.val := by exact_mod_cast line.slope.den_pos
  have hb : (0 : ℚ) < line.base.den.val := by exact_mod_cast line.base.den_pos
  rcases line.positive with h | h
  · exact Or.inl (div_pos (by exact_mod_cast Nat.pos_of_ne_zero h) hs)
  · exact Or.inr (div_pos (by exact_mod_cast Nat.pos_of_ne_zero h) hb)

theorem cost_lt_cost (line : PriceLine) (hy : 0 ≤ y) (hyz : y < z) : line.cost y < line.cost z := by
  have hs := line.slope.value_nonneg
  have hb := line.base.value_nonneg
  have hsq : y * y < z * z := mul_self_lt_mul_self hy hyz
  rw [cost_eq, cost_eq]
  rcases line.ratio_pos with h | h
  · have hlt := mul_lt_mul_of_pos_left hsq (half_pos h)
    have hle := mul_le_mul_of_nonneg_left hyz.le hb
    linarith
  · have hle := mul_le_mul_of_nonneg_left hsq.le (div_nonneg hs zero_le_two)
    have hlt := mul_lt_mul_of_pos_left hyz h
    linarith

theorem cost_le_cost (line : PriceLine) (hy : 0 ≤ y) (hyz : y ≤ z) : line.cost y ≤ line.cost z := by
  rcases hyz.eq_or_lt with rfl | hlt
  · exact le_rfl
  · exact (line.cost_lt_cost hy hlt).le

theorem le_of_cost_le_cost (line : PriceLine) (hz : 0 ≤ z) (h : line.cost y ≤ line.cost z) :
    y ≤ z := by
  by_contra hlt
  exact absurd h (not_le.mpr (line.cost_lt_cost hz (not_le.mp hlt)))

theorem exists_le_cost (line : PriceLine) (z : ℚ) : ∃ y, 0 < y ∧ z ≤ line.cost y := by
  have hs := line.slope.value_nonneg
  have hb := line.base.value_nonneg
  rcases line.ratio_pos with h | h
  · refine ⟨max 1 (2 * z / line.slope.value), by positivity, ?_⟩
    have hone := le_max_left 1 (2 * z / line.slope.value)
    have hz : 2 * z ≤ max 1 (2 * z / line.slope.value) * line.slope.value :=
      (div_le_iff₀ h).mp (le_max_right _ _)
    rw [cost_eq]
    nlinarith [mul_nonneg hs (sub_nonneg.mpr hone), mul_nonneg hb (zero_le_one.trans hone)]
  · refine ⟨max 1 (z / line.base.value), by positivity, ?_⟩
    have hz : z ≤ max 1 (z / line.base.value) * line.base.value :=
      (div_le_iff₀ h).mp (le_max_right _ _)
    rw [cost_eq]
    have hsq := mul_nonneg hs (mul_self_nonneg (max 1 (z / line.base.value)))
    linarith

theorem cost_add (line : PriceLine) (y z : ℚ) :
    line.cost (y + z) =
      line.cost y + z * (line.base.value + line.slope.value * (y + z / 2)) := by
  rw [cost_eq, cost_eq]
  ring

theorem cost_step_lt (line : PriceLine) {gap top : ℚ} {k n : ℕ} (hgap : 0 < gap) (htop : 0 < top)
    (hk : k < n) (hn : top * (line.base.value + 2 * line.slope.value * top) / gap < n) :
    line.cost (k * (top / n) + top / n) < line.cost (k * (top / n)) + gap := by
  have hs := line.slope.value_nonneg
  have hnpos : (0 : ℚ) < n := by exact_mod_cast Nat.zero_lt_of_lt hk
  have hone : (1 : ℚ) ≤ n := by exact_mod_cast Nat.one_le_of_lt hk
  have hkn : (k : ℚ) ≤ n := by exact_mod_cast hk.le
  have hstep : top / n ≤ top := div_le_self htop.le hone
  have hat : k * (top / n) ≤ top := by
    rw [mul_div_left_comm]
    exact mul_le_of_le_one_right htop.le ((div_le_one hnpos).mpr hkn)
  have hmean : k * (top / n) + top / n / 2 ≤ 2 * top := by linarith
  have hslope := mul_le_mul_of_nonneg_left hmean hs
  have hrise : top / n * (line.base.value + 2 * line.slope.value * top) < gap := by
    rw [div_mul_eq_mul_div, div_lt_iff₀ hnpos]
    rwa [div_lt_iff₀ hgap, mul_comm (n : ℚ)] at hn
  have hle : top / n * (line.base.value + line.slope.value * (k * (top / n) + top / n / 2)) ≤
      top / n * (line.base.value + 2 * line.slope.value * top) := by
    apply mul_le_mul_of_nonneg_left _ (by positivity)
    linarith
  rw [cost_add]
  linarith

theorem exists_cost_between (line : PriceLine) (hy : 0 ≤ y) (hyz : y < z) :
    ∃ x, 0 ≤ x ∧ y < line.cost x ∧ line.cost x ≤ z := by
  obtain ⟨top, htop, hz⟩ := line.exists_le_cost z
  have hs := line.slope.value_nonneg
  have hb := line.base.value_nonneg
  by_contra hnone
  push Not at hnone
  obtain ⟨n, hn⟩ := exists_nat_gt (top * (line.base.value + 2 * line.slope.value * top) / (z - y))
  have hgap : 0 < z - y := sub_pos.mpr hyz
  have hnpos : (0 : ℚ) < n := lt_of_le_of_lt (by positivity) hn
  -- no step of the grid is long enough to jump over the gap, so all of it stays below
  have hbelow (k : ℕ) (hk : k ≤ n) : line.cost (k * (top / n)) ≤ y := by
    induction k with
    | zero => simpa using hy
    | succ k ih =>
      have hprev := ih (by omega)
      have hstep := line.cost_step_lt hgap htop hk hn
      rw [← add_one_mul, ← Nat.cast_succ] at hstep
      by_contra hlt
      have habove := hnone ((k + 1 : ℕ) * (top / n)) (by positivity) (not_le.mp hlt)
      linarith
  have hend := hbelow n le_rfl
  rw [mul_div_cancel₀ _ hnpos.ne'] at hend
  linarith

/-- The quotient of the doubled collateral by a divisor rounded the other way costs, in the
direction of the quotient, no less or no more than the collateral. No root is taken here: both sides
of `b * t` against `2 * R - b * p` are squared. -/
theorem quadratic_toward {s p p' t R q : ℚ} (hs : 0 ≤ s) (hp : 0 ≤ p) (ht : 0 ≤ t)
    (hR : 0 < R) (hpos : 0 < p' + t) (hq : 0 ≤ q) (hbase : r.opposite.Toward p' p)
    (hroot : r.opposite.Toward (t * t) (p * p + 2 * s * R))
    (hquot : r.Toward q (2 * R / (p' + t))) : r.Toward (s / 2 * (q * q) + p * q) R := by
  cases r with
  | down =>
    replace hbase : p ≤ p' := hbase
    replace hroot : p * p + 2 * s * R ≤ t * t := hroot
    have hmul : q * (p' + t) ≤ 2 * R := (le_div_iff₀ hpos).mp hquot
    have hlin : q * t ≤ 2 * R - q * p := by nlinarith
    have hsq : q * t * (q * t) ≤ (2 * R - q * p) * (2 * R - q * p) :=
      mul_self_le_mul_self (mul_nonneg hq ht) hlin
    have hexp := mul_le_mul_of_nonneg_left hroot (mul_nonneg hq hq)
    have hle : R * (s / 2 * (q * q) + p * q) ≤ R * R := by nlinarith
    exact le_of_mul_le_mul_left hle hR
  | up =>
    replace hbase : p' ≤ p := hbase
    replace hroot : t * t ≤ p * p + 2 * s * R := hroot
    have hmul : 2 * R ≤ q * (p' + t) := (div_le_iff₀ hpos).mp hquot
    have hlin : 2 * R - q * p ≤ q * t := by nlinarith
    by_cases hneg : 2 * R - q * p ≤ 0
    · have hsq := mul_nonneg hs (mul_nonneg hq hq)
      change R ≤ s / 2 * (q * q) + p * q
      linarith
    · have hsq : (2 * R - q * p) * (2 * R - q * p) ≤ q * t * (q * t) :=
        mul_self_le_mul_self (not_le.mp hneg).le hlin
      have hexp := mul_le_mul_of_nonneg_left hroot (mul_nonneg hq hq)
      have hle : R * R ≤ R * (s / 2 * (q * q) + p * q) := by nlinarith
      exact le_of_mul_le_mul_left hle hR

theorem radicandRaw_toward (line : PriceLine) (x : Fixed) (r : Rounding) :
    r.Toward (line.radicandRaw x.raw r / scale)
      (line.base.value * line.base.value + 2 * line.slope.value * x.value) := by
  have hpos := Nat.mul_pos line.base.den_pos line.base.den_pos
  have hsquare := (divRounded_toward r (line.base.num.val * line.base.num.val * scale)
    hpos).div_right Fixed.scale_cast_pos.le
  have hgrowth := (divRounded_toward r (x.raw * (2 * line.slope.num.val))
    line.slope.den_pos).div_right Fixed.scale_cast_pos.le
  have hsum := hsquare.add hgrowth
  have hs := Fixed.scale_cast_pos.ne'
  have hb : (line.base.den.val : ℚ) ≠ 0 := by exact_mod_cast line.base.den_pos.ne'
  have hd : (line.slope.den.val : ℚ) ≠ 0 := by exact_mod_cast line.slope.den_pos.ne'
  have hexact : ((line.base.num.val * line.base.num.val * scale : ℕ) : ℚ) /
        ((line.base.den.val * line.base.den.val : ℕ) : ℚ) / scale +
      ((x.raw * (2 * line.slope.num.val) : ℕ) : ℚ) / (line.slope.den.val : ℚ) / scale =
      line.base.value * line.base.value + 2 * line.slope.value * x.value := by
    unfold Ratio.value Fixed.value
    push_cast
    field_simp
  rw [hexact, ← add_div, ← Nat.cast_add] at hsum
  exact hsum

/-- The position recovered from a collateral brackets the true one. -/
theorem soldAt_toward (h : line.soldAt x r = .ok b) : r.Toward (line.cost b.value) x.value := by
  by_cases hx : x.raw = 0
  · rw [soldAt_of_raw_eq_zero hx] at h
    cases h
    have hv : x.value = 0 := by simp [Fixed.value, hx]
    have hz : Fixed.zero.value = 0 := by simp [Fixed.value, Fixed.zero]
    rw [hv, hz, cost_zero]
    exact .refl r 0
  · obtain ⟨d, hd, hne, -, hb⟩ := (soldAt_eq_ok_iff hx).mp h
    obtain ⟨-, -, hdraw⟩ := divisorAt_eq_ok_iff.mp hd
    have hs := Fixed.scale_cast_pos
    have hxpos : 0 < x.value := div_pos (by exact_mod_cast Nat.pos_of_ne_zero hx) hs
    have hbase := Fixed.fraction_toward r.opposite line.base.num.val line.base.den_pos
    have hroot := (Fixed.root_toward r.opposite (line.radicandRaw x.raw r.opposite)).trans
      (line.radicandRaw_toward x r.opposite)
    have hquot := (divRounded_toward r (x.raw * 2 * scale) (Nat.pos_of_ne_zero hne)).div_right hs.le
    have hsum : (d.raw : ℚ) / scale =
        line.baseRaw r.opposite / scale + line.rootRaw x.raw r.opposite / scale := by
      rw [hdraw, divisorRaw, Nat.cast_add, add_div]
    have hexact : ((x.raw * 2 * scale : ℕ) : ℚ) / d.raw / scale = 2 * x.value / (d.raw / scale) := by
      rw [Fixed.value]
      push_cast
      field_simp
    have hpos : (0 : ℚ) < d.raw / scale := div_pos (by exact_mod_cast Nat.pos_of_ne_zero hne) hs
    rw [hexact, ← hb] at hquot
    rw [hsum] at hquot hpos
    rw [cost_eq]
    exact quadratic_toward line.slope.value_nonneg line.base.value_nonneg
      (div_nonneg (Nat.cast_nonneg _) hs.le) hxpos hpos b.value_nonneg hbase hroot hquot

theorem soldAt_down_le_up {reach sold : Fixed} (hreach : line.soldAt b .down = .ok reach)
    (hsold : line.soldAt c .up = .ok sold) (hle : b ≤ c) : reach ≤ sold := by
  have hunder : line.cost reach.value ≤ b.value := soldAt_toward hreach
  have hcover : c.value ≤ line.cost sold.value := soldAt_toward hsold
  have hvalue := Fixed.value_le_value_iff.mpr hle
  apply Fixed.value_le_value_iff.mp
  exact line.le_of_cost_le_cost sold.value_nonneg (by linarith)

/-- The collateral computed for a position brackets its cost. -/
theorem collateralAt_toward (h : line.collateralAt b r = .ok c) :
    r.Toward c.value (line.cost b.value) := by
  obtain ⟨-, -, -, hc⟩ := collateralAt_eq_ok_iff.mp h
  have hden := Nat.mul_pos Nat.two_pos line.slope.den_pos
  have hsquare := ((Fixed.product_toward r b.raw b.raw).mul_right
    (Nat.cast_nonneg line.slope.num.val)).div_right (Nat.cast_nonneg (2 * line.slope.den.val))
  have hquadratic := (Fixed.ratio_toward r (squareRaw b.raw r) line.slope.num.val hden).trans hsquare
  have hlinear := Fixed.ratio_toward r b.raw line.base.num.val line.base.den_pos
  have hsum := hquadratic.add hlinear
  rw [← add_div, ← Nat.cast_add] at hsum
  have hcost : line.cost b.value = (b.raw / scale : ℚ) * (b.raw / scale) * line.slope.num.val /
      (2 * line.slope.den.val : ℕ) + (b.raw / scale : ℚ) * line.base.num.val / line.base.den.val := by
    unfold cost Fixed.value
    push_cast
    ring
  rw [Fixed.value, hc, hcost]
  exact hsum

theorem abs_quadratic_sub_lt (line : PriceLine) (n : ℕ) (r : Rounding) :
    |(divRounded r (squareRaw n r * line.slope.num.val) (2 * line.slope.den.val) : ℚ) -
        n * n / scale * (line.slope.value / 2)| < line.slope.value / 2 + 1 := by
  have hden := Nat.mul_pos Nat.two_pos line.slope.den_pos
  have hd : (line.slope.den.val : ℚ) ≠ 0 := by exact_mod_cast line.slope.den_pos.ne'
  have hs : 0 ≤ line.slope.value / 2 := div_nonneg line.slope.value_nonneg zero_le_two
  have hsquare := abs_divRounded_sub_lt r (n * n) scale_pos
  have houter := abs_divRounded_sub_lt r (squareRaw n r * line.slope.num.val) hden
  have hinner : ((squareRaw n r * line.slope.num.val : ℕ) : ℚ) / (2 * line.slope.den.val : ℕ) -
      n * n / scale * (line.slope.value / 2) =
        ((squareRaw n r : ℚ) - n * n / scale) * (line.slope.value / 2) := by
    unfold Ratio.value
    push_cast
    field_simp
  have hle : |((squareRaw n r : ℚ) - n * n / scale) * (line.slope.value / 2)| ≤
      line.slope.value / 2 := by
    rw [abs_mul, abs_of_nonneg hs]
    push_cast at hsquare
    exact mul_le_of_le_one_left hs hsquare.le
  rw [← hinner] at hle
  calc _ ≤ _ + _ := abs_sub_le _ (((squareRaw n r * line.slope.num.val : ℕ) : ℚ) /
          (2 * line.slope.den.val : ℕ)) _
    _ < line.slope.value / 2 + 1 := by linarith

theorem abs_collateralAt_sub_lt (h : line.collateralAt b r = .ok c) :
    |c.value - line.cost b.value| < (line.slope.value / 2 + 2) / scale := by
  obtain ⟨-, -, -, hc⟩ := collateralAt_eq_ok_iff.mp h
  have hs := Fixed.scale_cast_pos
  have hquadratic := line.abs_quadratic_sub_lt b.raw r
  have hlinear := abs_divRounded_sub_lt r (b.raw * line.base.num.val) line.base.den_pos
  have hcost : c.value - line.cost b.value =
      ((divRounded r (squareRaw b.raw r * line.slope.num.val) (2 * line.slope.den.val) -
          b.raw * b.raw / scale * (line.slope.value / 2) : ℚ) +
        (divRounded r (b.raw * line.base.num.val) line.base.den.val -
          ((b.raw * line.base.num.val : ℕ) : ℚ) / line.base.den.val)) / scale := by
    rw [cost_eq, Fixed.value, Fixed.value, hc, collateralRaw, Ratio.value, Ratio.value]
    push_cast
    field_simp
    ring
  rw [hcost, abs_div, abs_of_pos hs, div_lt_div_iff_of_pos_right hs]
  calc _ ≤ _ := abs_add_le _ _
    _ < line.slope.value / 2 + 1 + 1 := add_lt_add hquadratic hlinear
    _ = line.slope.value / 2 + 2 := by ring

end PriceLine

end BondingPool
