import BondingPool.Proofs.Precision
import BondingPool.Proofs.Run

/-!
# How near computed quantities are to exact ones

A position recovered from a collateral brackets the true one, whatever the line. The collateral computed for a
position lies on the side of its cost that it was rounded to and misses it by less than two units and half the
slope, since the rounding of the square is magnified by the slope; a price misses by less than two units. On a
line that starts at a price of one or more the two positions of a collateral are so near to each other that the
tokens between them are worth a few units for each token and each unit of collateral held.
-/

namespace BondingPool

namespace PriceLine

variable {line : PriceLine} {b c x low high : Fixed} {r : Rounding}

/-! ### Positions and collateral against the exact cost -/

/-- A position rounded down lies below every one that costs the collateral or more, and one rounded up above
every one that costs no more than it. -/
theorem soldAt_brackets (line : PriceLine) (x : Fixed) :
    (∀ low, line.soldAt x .down = .ok low → line.cost low.value ≤ x.value ∧
      ∀ y : ℚ, 0 ≤ y → x.value ≤ line.cost y → low.value ≤ y) ∧
    ∀ high, line.soldAt x .up = .ok high → x.value ≤ line.cost high.value ∧
      ∀ y : ℚ, line.cost y ≤ x.value → y ≤ high.value := by
  constructor
  · intro low hlow
    have hunder : line.cost low.value ≤ x.value := soldAt_toward hlow
    exact ⟨hunder, fun y hy hle => line.le_of_cost_le_cost hy (hunder.trans hle)⟩
  · intro high hhigh
    have hcover : x.value ≤ line.cost high.value := soldAt_toward hhigh
    exact ⟨hcover, fun y hle => line.le_of_cost_le_cost high.value_nonneg (hle.trans hcover)⟩

theorem soldAt_brackets_sample :
    Genesis.sample.line.soldAt ⟨1000 * scale, by decide⟩ .down =
        .ok ⟨19999999980000000039, by decide⟩ ∧
      Genesis.sample.line.soldAt ⟨1000 * scale, by decide⟩ .up =
        .ok ⟨19999999980000000040, by decide⟩ ∧
      Genesis.sample.line.cost (Fixed.mk 19999999980000000039 (by decide)).value ≤
        (Fixed.mk (1000 * scale) (by decide)).value ∧
      (Fixed.mk (1000 * scale) (by decide)).value ≤
        Genesis.sample.line.cost (Fixed.mk 19999999980000000040 (by decide)).value := by
  have hlow : Genesis.sample.line.soldAt ⟨1000 * scale, by decide⟩ .down =
      .ok ⟨19999999980000000039, by decide⟩ := by
    decide
  have hhigh : Genesis.sample.line.soldAt ⟨1000 * scale, by decide⟩ .up =
      .ok ⟨19999999980000000040, by decide⟩ := by
    decide
  obtain ⟨hdown, hup⟩ := soldAt_brackets Genesis.sample.line ⟨1000 * scale, by decide⟩
  exact ⟨hlow, hhigh, (hdown _ hlow).1, (hup _ hhigh).1⟩

/-- The computed collateral is directed and near to the cost, and where it exists it exists for every position
before and is no more there. -/
theorem collateralAt_near (line : PriceLine) (b : Fixed) :
    (∀ c, line.collateralAt b .down = .ok c →
      line.cost b.value - (line.slope.value / 2 + 2) / scale < c.value ∧
        c.value ≤ line.cost b.value) ∧
    (∀ c, line.collateralAt b .up = .ok c →
      line.cost b.value ≤ c.value ∧
        c.value < line.cost b.value + (line.slope.value / 2 + 2) / scale) ∧
    ∀ r c, line.collateralAt b r = .ok c →
      ∀ x : Fixed, x ≤ b → ∃ part, line.collateralAt x r = .ok part ∧ part ≤ c := by
  refine ⟨fun c h => ?_, fun c h => ?_, fun r c h x hle => exists_collateralAt_of_le h hle⟩
  · have hle : c.value ≤ line.cost b.value := collateralAt_toward h
    have hnear := (abs_lt.mp (abs_collateralAt_sub_lt h)).1
    exact ⟨by linarith, hle⟩
  · have hle : line.cost b.value ≤ c.value := collateralAt_toward h
    have hnear := (abs_lt.mp (abs_collateralAt_sub_lt h)).2
    exact ⟨hle, by linarith⟩

theorem collateralAt_near_sample :
    Genesis.sample.line.collateralAt ⟨1500000000000000001, by decide⟩ .up =
        .ok ⟨75000000005625000051, by decide⟩ ∧
      (Fixed.mk 75000000005625000051 (by decide)).value <
        Genesis.sample.line.cost (Fixed.mk 1500000000000000001 (by decide)).value +
          (Genesis.sample.line.slope.value / 2 + 2) / scale ∧
      Fixed.mk scale (by decide) ≤ Fixed.mk 1500000000000000001 (by decide) ∧
      ∃ part, Genesis.sample.line.collateralAt ⟨scale, by decide⟩ .up = .ok part ∧
        part ≤ Fixed.mk 75000000005625000051 (by decide) := by
  have h : Genesis.sample.line.collateralAt ⟨1500000000000000001, by decide⟩ .up =
      .ok ⟨75000000005625000051, by decide⟩ := by
    decide
  have hle : Fixed.mk scale (by decide) ≤ Fixed.mk 1500000000000000001 (by decide) := by decide
  obtain ⟨-, hup, hmono⟩ :=
    collateralAt_near Genesis.sample.line ⟨1500000000000000001, by decide⟩
  exact ⟨h, (hup _ h).2, hle, hmono .up _ h _ hle⟩

/-! ### Prices against the exact price -/

theorem priceAt_toward (h : line.priceAt b r = .ok c) : r.Toward c.value (line.price b.value) := by
  obtain ⟨-, hc⟩ := priceAt_eq_ok_iff.mp h
  have hrise := Fixed.ratio_toward r b.raw line.slope.num.val line.slope.den_pos
  have hsum := hrise.add (Fixed.fraction_toward r line.base.num.val line.base.den_pos)
  rw [← add_div, ← Nat.cast_add] at hsum
  have hprice : line.price b.value =
      (b.raw / scale : ℚ) * line.slope.num.val / line.slope.den.val +
        line.base.num.val / line.base.den.val := by
    unfold price Ratio.value Fixed.value
    ring
  rw [Fixed.value, hc, hprice]
  exact hsum

theorem abs_priceAt_sub_lt (h : line.priceAt b r = .ok c) :
    |c.value - line.price b.value| < 2 / scale := by
  obtain ⟨-, hc⟩ := priceAt_eq_ok_iff.mp h
  have hs := Fixed.scale_cast_pos
  have hrise := abs_divRounded_sub_lt r (b.raw * line.slope.num.val) line.slope.den_pos
  have hbase := abs_divRounded_sub_lt r (line.base.num.val * scale) line.base.den_pos
  have hprice : c.value - line.price b.value =
      ((divRounded r (b.raw * line.slope.num.val) line.slope.den.val -
          ((b.raw * line.slope.num.val : ℕ) : ℚ) / line.slope.den.val) +
        (line.baseRaw r - ((line.base.num.val * scale : ℕ) : ℚ) / line.base.den.val)) / scale := by
    rw [price, Fixed.value, Fixed.value, hc, priceRaw, Ratio.value, Ratio.value]
    push_cast
    field_simp
    ring
  rw [hprice, abs_div, abs_of_pos hs, div_lt_div_iff_of_pos_right hs]
  calc _ ≤ _ := abs_add_le _ _
    _ < 1 + 1 := add_lt_add hrise hbase
    _ = 2 := by norm_num

theorem price_nonneg (line : PriceLine) {y : ℚ} (hy : 0 ≤ y) : 0 ≤ line.price y :=
  add_nonneg (mul_nonneg line.slope.value_nonneg hy) line.base.value_nonneg

theorem price_le_price (line : PriceLine) {y z : ℚ} (h : y ≤ z) : line.price y ≤ line.price z :=
  add_le_add_left (mul_le_mul_of_nonneg_left h line.slope.value_nonneg) _

theorem slope_mul_sq_nonneg (line : PriceLine) (y : ℚ) : 0 ≤ line.slope.value * y ^ 2 / 2 := by
  have hs := line.slope.value_nonneg
  positivity

theorem cost_add_eq_price (line : PriceLine) (y z : ℚ) :
    line.cost (y + z) = line.cost y + (line.price y * z + line.slope.value * z ^ 2 / 2) := by
  rw [cost_add, price]
  ring

theorem cost_sub_le (line : PriceLine) (y z : ℚ) :
    line.cost z - line.cost y ≤ (z - y) * line.price z := by
  have hstart := line.cost_add_eq_price z (y - z)
  rw [add_sub_cancel] at hstart
  have hsquare := line.slope_mul_sq_nonneg (y - z)
  linarith

theorem cost_le_add_mul_price (line : PriceLine) {w y z : ℚ} (hyz : y ≤ z) (hzw : z ≤ w) :
    line.cost z ≤ line.cost y + (z - y) * line.price w := by
  have hrise := line.cost_sub_le y z
  have hprice := mul_le_mul_of_nonneg_left (line.price_le_price hzw) (sub_nonneg.mpr hyz)
  linarith

theorem cost_sub_le_shifted (line : PriceLine) {n y z : ℚ} (hyz : y ≤ z) (hn : 0 ≤ n) :
    line.cost z - line.cost y ≤ line.cost (z + n) - line.cost (y + n) := by
  have hs := line.slope.value_nonneg
  have hgap := sub_nonneg.mpr hyz
  -- the cost is convex
  have hrise : 0 ≤ n * line.slope.value * (z - y) := by positivity
  rw [cost_add, cost_add]
  linarith

/-! ### Between the two positions of a collateral -/

theorem base_mul_gapRaw_le (h : line.base.den.val ≤ line.base.num.val) (n : ℕ) :
    line.base.value * ((line.soldRaw n .up : ℚ) - line.soldRaw n .down - 2) ≤ 3 * (n / scale) := by
  have hs := Fixed.scale_cast_pos
  have hden : (0 : ℚ) < line.base.den.val := by exact_mod_cast line.base.den_pos
  have hpos := Nat.div_pos h line.base.den_pos
  have hlt := soldRaw_up_lt_of_base hpos (Nat.div_mul_le_self _ _) n
  have hbase : line.base.value < (line.base.num.val / line.base.den.val : ℕ) + 1 := by
    rw [Ratio.value, div_lt_iff₀ hden]
    exact_mod_cast lt_divRounded_down_succ_mul line.base.num.val line.base.den_pos
  generalize line.base.num.val / line.base.den.val = k at hpos hlt hbase
  have hk : (1 : ℚ) ≤ k := by exact_mod_cast hpos
  have hcast : 2 * (k * k) * scale * (line.soldRaw n .up : ℚ) <
      2 * (k * k) * scale * (line.soldRaw n .down + 2) + 3 * n := by exact_mod_cast hlt
  set gap := (line.soldRaw n .up : ℚ) - line.soldRaw n .down - 2 with hgap
  have hgap' : 2 * (k * k) * gap ≤ 3 * (n / scale) := by
    rw [← mul_div_assoc, le_div_iff₀ hs, hgap]
    linarith
  -- the whole part of the base is at least half of it, and its square no less than itself
  rcases le_total gap 0 with hneg | hnonneg
  · exact (mul_nonpos_of_nonneg_of_nonpos line.base.value_nonneg hneg).trans (by positivity)
  · refine le_trans (mul_le_mul_of_nonneg_right ?_ hnonneg) hgap'
    have hsq := mul_le_mul_of_nonneg_left hk (zero_le_one.trans hk)
    linarith

theorem slope_mul_gapRaw_le (h : line.base.den.val ≤ line.base.num.val) (n : ℕ) :
    line.slope.value * ((line.soldRaw n .up : ℚ) - line.soldRaw n .down - 2) ≤ 3 := by
  have hden : (0 : ℚ) < line.slope.den.val := by exact_mod_cast line.slope.den_pos
  rcases Nat.eq_zero_or_pos line.slope.num.val with hflat | hpos
  · simp [Ratio.value, hflat]
  · have hlt := soldRaw_up_lt_of_slope h hpos n
    have hcast : line.slope.num.val * (line.soldRaw n .up : ℚ) <
        line.slope.num.val * (line.soldRaw n .down + 2) + 3 * line.slope.den.val := by
      exact_mod_cast hlt
    rw [Ratio.value, div_mul_eq_mul_div, div_le_iff₀ hden]
    linarith

theorem mul_gap_le {s t : ℚ} (hlow : line.soldAt x .down = .ok low)
    (hhigh : line.soldAt x .up = .ok high)
    (h : s * ((line.soldRaw x.raw .up : ℚ) - line.soldRaw x.raw .down - 2) ≤ t) :
    s * (high.value - low.value) ≤ (2 * s + t) / scale := by
  have hs := Fixed.scale_cast_pos
  have hgap : high.value - low.value = ((high.raw : ℚ) - low.raw) / scale := by
    rw [Fixed.value, Fixed.value, sub_div]
  rw [← soldAt_raw hlow, ← soldAt_raw hhigh] at h
  rw [hgap, ← mul_div_assoc, div_le_div_iff_of_pos_right hs]
  linarith

theorem base_mul_gap_le (h : line.base.den.val ≤ line.base.num.val)
    (hlow : line.soldAt x .down = .ok low) (hhigh : line.soldAt x .up = .ok high) :
    line.base.value * (high.value - low.value) ≤ (2 * line.base.value + 3 * x.value) / scale :=
  mul_gap_le hlow hhigh (base_mul_gapRaw_le h x.raw)

theorem slope_mul_gap_le (h : line.base.den.val ≤ line.base.num.val)
    (hlow : line.soldAt x .down = .ok low) (hhigh : line.soldAt x .up = .ok high) :
    line.slope.value * (high.value - low.value) ≤ (2 * line.slope.value + 3) / scale :=
  mul_gap_le hlow hhigh (slope_mul_gapRaw_le h x.raw)

theorem two_mul_raw_gap_lt (h : line.base.den.val ≤ line.base.num.val)
    (hlow : line.soldAt x .down = .ok low) (hhigh : line.soldAt x .up = .ok high) :
    2 * scale * high.raw < 2 * scale * (low.raw + 2) + 3 * x.raw := by
  have hlt := soldRaw_up_lt_of_base one_pos ((one_mul _).trans_le h) x.raw
  rwa [← soldAt_raw hlow, ← soldAt_raw hhigh, mul_one, mul_one] at hlt

theorem gap_lt (h : line.base.den.val ≤ line.base.num.val)
    (hlow : line.soldAt x .down = .ok low) (hhigh : line.soldAt x .up = .ok high) :
    high.value - low.value < (3 / 2 * x.value + 2) / scale := by
  have hs := Fixed.scale_cast_pos
  have hraw : 2 * scale * (high.raw : ℚ) < 2 * scale * (low.raw + 2) + 3 * x.raw := by
    exact_mod_cast two_mul_raw_gap_lt h hlow hhigh
  have hunits : (scale : ℚ) * (3 / 2 * x.value + 2) = 3 / 2 * x.raw + 2 * scale := by
    rw [Fixed.value]
    field_simp
  rw [Fixed.value, Fixed.value, ← sub_div, div_lt_div_iff_of_pos_right hs]
  apply lt_of_mul_lt_mul_left _ hs.le
  linarith

/-- On a line that starts at one or more the two positions of a collateral are two units and half as many again
as its units apart, at most. -/
theorem soldAt_gap (h : line.base.den.val ≤ line.base.num.val)
    (hlow : line.soldAt x .down = .ok low) (hhigh : line.soldAt x .up = .ok high) :
    0 ≤ (high.raw : ℤ) - low.raw ∧
      2 * scale * ((high.raw : ℤ) - low.raw) < 3 * x.raw + 4 * scale ∧
      high.value - low.value < (3 / 2 * x.value + 2) / scale := by
  have hordered := Fixed.le_iff_raw.mp (soldAt_down_le_up hlow hhigh (Nat.le_refl _))
  have hraw : 2 * scale * (high.raw : ℤ) < 2 * scale * (low.raw + 2) + 3 * x.raw := by
    exact_mod_cast two_mul_raw_gap_lt h hlow hhigh
  exact ⟨by omega, by linarith, gap_lt h hlow hhigh⟩

theorem soldAt_gap_sample :
    Genesis.level.line.base.den.val ≤ Genesis.level.line.base.num.val ∧
      Genesis.level.line.soldAt ⟨10 * scale, by decide⟩ .down =
        .ok ⟨9999999998999999990, by decide⟩ ∧
      Genesis.level.line.soldAt ⟨10 * scale, by decide⟩ .up =
        .ok ⟨9999999999000000006, by decide⟩ ∧
      2 * scale * ((9999999999000000006 : ℕ) - (9999999998999999990 : ℕ) : ℤ) <
        3 * (10 * scale : ℕ) + 4 * scale := by
  have h : Genesis.level.line.base.den.val ≤ Genesis.level.line.base.num.val := by decide
  have hlow : Genesis.level.line.soldAt ⟨10 * scale, by decide⟩ .down =
      .ok ⟨9999999998999999990, by decide⟩ := by
    decide
  have hhigh : Genesis.level.line.soldAt ⟨10 * scale, by decide⟩ .up =
      .ok ⟨9999999999000000006, by decide⟩ := by
    decide
  exact ⟨h, hlow, hhigh, (soldAt_gap h hlow hhigh).2.1⟩

theorem gap_mul_price_le (h : line.base.den.val ≤ line.base.num.val)
    (hlow : line.soldAt x .down = .ok low) (hhigh : line.soldAt x .up = .ok high) :
    (high.value - low.value) * line.price high.value ≤
      (2 * line.price high.value + 3 * (x.value + high.value)) / scale := by
  have hbase := base_mul_gap_le h hlow hhigh
  have hslope := mul_le_mul_of_nonneg_right (slope_mul_gap_le h hlow hhigh) high.value_nonneg
  calc (high.value - low.value) * line.price high.value
      = line.slope.value * (high.value - low.value) * high.value +
          line.base.value * (high.value - low.value) := by rw [price]; ring
    _ ≤ (2 * line.slope.value + 3) / scale * high.value +
          (2 * line.base.value + 3 * x.value) / scale := add_le_add hslope hbase
    _ = (2 * line.price high.value + 3 * (x.value + high.value)) / scale := by rw [price]; ring

end PriceLine

end BondingPool
