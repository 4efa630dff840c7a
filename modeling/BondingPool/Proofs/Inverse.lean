import BondingPool.Proofs.Precision
import BondingPool.Proofs.Run

/-!
# The position as the inverse of the cost

On a line that starts at a price of one or more, more collateral never has an earlier position, for all the
collateral that precision can tell apart. And where every quantity on the way is a multiple of the smallest unit no
rounding takes place: the position of what some tokens cost is exactly those tokens, in either direction.
-/

namespace BondingPool

def Fixed.OnGrid (q : ℚ) : Prop := ∃ k : ℕ, q = k / scale

namespace PriceLine

open Fixed (OnGrid Failure)

variable {line : PriceLine} {b x R : Fixed} {r : Rounding} {m n : ℕ}

/-! ### More collateral -/

theorem soldRaw_le_of_le (h : line.base.den.val ≤ line.base.num.val) (hmn : m ≤ n) (hn : n ≤ scale)
    (r : Rounding) : line.soldRaw (m * scale) r ≤ line.soldRaw (n * scale) r := by
  have hm := hmn.trans hn
  cases r with
  | down =>
    have hresolves : line.Resolves m := by
      refine Or.inr (Or.inr ⟨h, ?_⟩)
      calc m * (line.base.den.val * line.slope.den.val)
          ≤ scale * (line.base.num.val * line.slope.den.val) := by gcongr
        _ ≤ 2 * scale * (line.base.num.val * line.slope.den.val +
              line.slope.num.val * scale * line.base.den.val) := by
            gcongr
            · exact Nat.le_mul_of_pos_left _ Nat.two_pos
            · exact Nat.le_add_right _ _
    exact hresolves.soldRaw_down_le hmn
  | up =>
    have hdivisor := le_divisorRaw ((one_mul _).trans_le h) (m * scale) .down
    exact soldRaw_up_le h (by omega) hmn

/-- Both positions exist, and the one of more collateral is no earlier. -/
theorem soldAt_mono (h : line.base.den.val ≤ line.base.num.val) (hmn : m ≤ n) (hn : n ≤ 10 ^ 18)
    (r : Rounding) :
    ∃ x y b c : Fixed, Fixed.ofInt m = .ok x ∧ Fixed.ofInt n = .ok y ∧
      line.soldAt x r = .ok b ∧ line.soldAt y r = .ok c ∧ b ≤ c := by
  have hposition : ∀ k ≤ 10 ^ 18, ∃ x b : Fixed, Fixed.ofInt (k : ℕ) = .ok x ∧
      line.soldAt x r = .ok b ∧ b.raw = line.soldRaw (k * scale) r := by
    intro k hk
    have hpooled : k * scale ≤ maxPooled := (Nat.mul_le_mul_right scale hk).trans (by decide)
    obtain ⟨b, hb, hraw⟩ := exists_soldAt (x := ⟨k * scale, hpooled.trans (by decide)⟩) (r := r)
      hpooled fun _ => (divisorRaw_pos_of_base h _ _).ne'
    exact ⟨_, b, Fixed.ofInt_eq_ok_iff.mpr rfl, hb, hraw⟩
  obtain ⟨x, b, hx, hb, hbraw⟩ := hposition m (hmn.trans hn)
  obtain ⟨y, c, hy, hc, hcraw⟩ := hposition n hn
  refine ⟨x, y, b, c, hx, hy, hb, hc, Fixed.le_iff_raw.mpr ?_⟩
  rw [hbraw, hcraw]
  exact soldRaw_le_of_le h hmn hn r

theorem soldAt_mono_sample :
    Genesis.level.line.base.den.val ≤ Genesis.level.line.base.num.val ∧
      (10 ^ 18 - 1 : ℕ) ≤ 10 ^ 18 ∧
      ∃ x y b c : Fixed, Fixed.ofInt (10 ^ 18 - 1 : ℕ) = .ok x ∧ Fixed.ofInt (10 ^ 18 : ℕ) = .ok y ∧
        Genesis.level.line.soldAt x .up = .ok b ∧ Genesis.level.line.soldAt y .up = .ok c ∧ b ≤ c := by
  have h : Genesis.level.line.base.den.val ≤ Genesis.level.line.base.num.val := by decide
  have hmn : (10 ^ 18 - 1 : ℕ) ≤ 10 ^ 18 := by decide
  exact ⟨h, hmn, soldAt_mono h hmn le_rfl .up⟩

/-! ### Collateral that some tokens cost exactly -/

theorem divRounded_eq_of_onGrid {d : ℕ} (hd : 0 < d) (h : OnGrid ((n / d : ℚ) / scale)) (r : Rounding) :
    (divRounded r n d : ℚ) = n / d := by
  have hs := Fixed.scale_cast_pos.ne'
  have hd' : (d : ℚ) ≠ 0 := by exact_mod_cast hd.ne'
  obtain ⟨k, hk⟩ := h
  have hquot : (n / d : ℚ) = k := (div_left_inj' hs).mp hk
  obtain rfl : n = k * d := by
    rw [div_eq_iff hd'] at hquot
    exact_mod_cast hquot
  rw [divRounded_mul_self r k hd, hquot]

theorem baseRaw_of_onGrid (h : OnGrid line.base.value) (r : Rounding) :
    (line.baseRaw r : ℚ) = line.base.value * scale := by
  have hs := Fixed.scale_cast_pos.ne'
  have hexact : ((line.base.num.val * scale : ℕ) : ℚ) / line.base.den.val =
      line.base.value * scale := by
    rw [Ratio.value, Nat.cast_mul, mul_div_right_comm]
  rw [baseRaw, divRounded_eq_of_onGrid line.base.den_pos, hexact]
  rwa [hexact, mul_div_cancel_right₀ _ hs]

theorem radicandRaw_of_onGrid (hsquare : OnGrid (line.base.value ^ 2))
    (hgrowth : OnGrid (2 * line.slope.value * x.value)) (r : Rounding) :
    (line.radicandRaw x.raw r : ℚ) =
      (line.base.value ^ 2 + 2 * line.slope.value * x.value) * scale := by
  have hs := Fixed.scale_cast_pos.ne'
  have hden := Nat.mul_pos line.base.den_pos line.base.den_pos
  have hb : (line.base.den.val : ℚ) ≠ 0 := by exact_mod_cast line.base.den_pos.ne'
  have hbase : ((line.base.num.val * line.base.num.val * scale : ℕ) : ℚ) /
      (line.base.den.val * line.base.den.val : ℕ) = line.base.value ^ 2 * scale := by
    rw [Ratio.value]
    push_cast
    field_simp
  have hrise : ((x.raw * (2 * line.slope.num.val) : ℕ) : ℚ) / line.slope.den.val =
      2 * line.slope.value * x.value * scale := by
    rw [Ratio.value, Fixed.value]
    push_cast
    field_simp
  rw [radicandRaw, Nat.cast_add, divRounded_eq_of_onGrid hden, divRounded_eq_of_onGrid line.slope.den_pos,
    hbase, hrise, add_mul]
  · rwa [hrise, mul_div_cancel_right₀ _ hs]
  · rwa [hbase, mul_div_cancel_right₀ _ hs]

theorem price_sq_eq (line : PriceLine) (y : ℚ) :
    line.price y ^ 2 = line.base.value ^ 2 + 2 * line.slope.value * line.cost y := by
  rw [price, cost_eq]
  ring

theorem rootRaw_of_onGrid {p : ℚ} (hp : OnGrid p) (h : (line.radicandRaw n r : ℚ) = p ^ 2 * scale) :
    (line.rootRaw n r : ℚ) = p * scale := by
  have hs := Fixed.scale_cast_pos.ne'
  obtain ⟨k, rfl⟩ := hp
  have hroot : line.radicandRaw n r * scale = k * k := by
    have hcast : (line.radicandRaw n r : ℚ) * scale = k * k := by
      rw [h]
      field_simp
    exact_mod_cast hcast
  rw [rootRaw, hroot, rootRounded_mul_self, div_mul_cancel₀ _ hs]

theorem soldRaw_of_divisorRaw (hb : 0 < b.raw) (hR : R.value = line.cost b.value)
    (hd : (line.divisorRaw R.raw r.opposite : ℚ) = (line.base.value + line.price b.value) * scale) :
    R.raw ≠ 0 ∧ line.divisorRaw R.raw r.opposite ≠ 0 ∧ line.soldRaw R.raw r = b.raw := by
  have hs := Fixed.scale_cast_pos
  have hcost : 0 < R.value := by
    have hlt := line.cost_lt_cost le_rfl (div_pos (Nat.cast_pos.mpr hb) hs)
    rwa [cost_zero, ← Fixed.value, ← hR] at hlt
  -- the divisor is twice what a token costs on the average
  have hmean : 2 * R.value = b.value * (line.base.value + line.price b.value) := by
    rw [hR, cost_eq, price]
    ring
  have hproduct : R.raw * 2 * scale = b.raw * line.divisorRaw R.raw r.opposite := by
    have hcast : (R.raw * 2 * scale : ℚ) = b.raw * line.divisorRaw R.raw r.opposite := by
      calc (R.raw * 2 * scale : ℚ) = 2 * R.value * (scale * scale) := by rw [← R.value_mul_scale]; ring
        _ = b.value * (line.base.value + line.price b.value) * (scale * scale) := by rw [hmean]
        _ = b.raw * line.divisorRaw R.raw r.opposite := by rw [hd, ← b.value_mul_scale]; ring
    exact_mod_cast hcast
  have hpos : 0 < R.raw := by
    rw [Fixed.value, div_pos_iff_of_pos_right hs] at hcost
    exact_mod_cast hcost
  have hdivisor : line.divisorRaw R.raw r.opposite ≠ 0 := by
    intro h0
    rw [h0, Nat.mul_zero] at hproduct
    exact absurd hproduct (Nat.mul_pos (Nat.mul_pos hpos Nat.two_pos) scale_pos).ne'
  refine ⟨hpos.ne', hdivisor, ?_⟩
  rw [soldRaw, hproduct, divRounded_mul_self r _ (Nat.pos_of_ne_zero hdivisor)]

theorem divisorAt_error {e : Failure} (h : line.divisorAt x r = .error e) :
    e = .productTooLarge ∨ e = .sumTooLarge := by
  have hsquare := (line.base_square_raw_le r).trans (by decide : _ ≤ maxRaw)
  have hbase := (line.baseRaw_le r).trans (by decide : _ ≤ maxRaw)
  rw [divisorAt, base_square_eq, base_fraction_eq, Fixed.fit_of_le hsquare, Fixed.fit_of_le hbase,
    ok_bind, bind_eq_error_iff] at h
  obtain hgrowth | ⟨growth, -, h⟩ := h
  · exact Or.inl (Fixed.timesRatio_error line.slope.num.two_mul_scale_le
      line.slope.den.mul_scale_le line.slope.den_pos hgrowth)
  · right
    rw [bind_eq_error_iff] at h
    obtain hsum | ⟨sum, -, h⟩ := h
    · exact (Fixed.fit_eq_error_iff.mp hsum).2.symm
    · rw [Fixed.sqrt_eq, ok_bind, ok_bind] at h
      exact (Fixed.fit_eq_error_iff.mp h).2.symm

theorem soldAt_error {e : Failure} (hd : line.divisorRaw x.raw r.opposite ≠ 0)
    (hq : line.soldRaw x.raw r ≤ maxRaw) (h : line.soldAt x r = .error e) :
    e = .productTooLarge ∨ e = .sumTooLarge := by
  have htwo : Fixed.ofInt 2 = .ok ⟨2 * scale, by decide⟩ :=
    (Fixed.ofInt_natCast 2).trans (Fixed.fit_of_le _)
  rw [soldAt] at h
  split at h
  · cases h
  · rw [bind_eq_error_iff] at h
    obtain hdivisor | ⟨d, hdivisor, h⟩ := h
    · exact divisorAt_error hdivisor
    · obtain ⟨-, -, hraw⟩ := divisorAt_eq_ok_iff.mp hdivisor
      rw [← hraw] at hd
      rw [if_neg (by simpa [Fixed.isZero] using hd), htwo, ok_bind, bind_eq_error_iff] at h
      obtain htwice | ⟨twice, htwice, h⟩ := h
      · rw [Fixed.mul_eq] at htwice
        exact Or.inl (Fixed.fit_eq_error_iff.mp htwice).2.symm
      · rw [Fixed.mul_eq, Fixed.divRounded_mul_scale, Fixed.fit_eq_ok_iff] at htwice
        rw [Fixed.div_eq _ hd, Fixed.fit_eq_error_iff, htwice, hraw] at h
        exact absurd hq (Nat.not_le.mpr h.1)

/-- Of collateral that some tokens cost exactly, by quantities that are all multiples of the smallest unit, the
position is those tokens. It is found unless the doubled collateral, its product with the slope or the square of
the price is too large, and nothing else refuses it. -/
theorem soldAt_cost (hb : 0 < b.raw) (hR : R.value = line.cost b.value) (hbase : OnGrid line.base.value)
    (hsquare : OnGrid (line.base.value ^ 2)) (hprice : OnGrid (line.price b.value))
    (hgrowth : OnGrid (2 * line.slope.value * line.cost b.value)) (r : Rounding) :
    (line.soldAt R r = .ok b ↔
      R.raw * 2 ≤ maxRaw ∧ R.raw * (2 * line.slope.num.val) ≤ maxRaw ∧
        line.price b.value ^ 2 * scale ≤ maxRaw) ∧
    (line.soldAt R r = .ok b ∨ line.soldAt R r = .error .productTooLarge ∨
      line.soldAt R r = .error .sumTooLarge) := by
  rw [← hR] at hgrowth
  have hradicand := radicandRaw_of_onGrid hsquare hgrowth r.opposite
  rw [hR, ← price_sq_eq] at hradicand
  have hdivisor : (line.divisorRaw R.raw r.opposite : ℚ) =
      (line.base.value + line.price b.value) * scale := by
    rw [divisorRaw, Nat.cast_add, baseRaw_of_onGrid hbase, rootRaw_of_onGrid hprice hradicand, add_mul]
  obtain ⟨hx, hpos, hsold⟩ := soldRaw_of_divisorRaw hb hR hdivisor
  constructor
  · have hfits : line.radicandRaw R.raw r.opposite ≤ maxRaw ↔
        line.price b.value ^ 2 * scale ≤ maxRaw := by
      rw [← hradicand, Nat.cast_le]
    rw [soldAt_eq_ok_iff hx, ← hfits]
    constructor
    · rintro ⟨d, hd, -, htwice, -⟩
      obtain ⟨hproduct, hrad, -⟩ := divisorAt_eq_ok_iff.mp hd
      exact ⟨htwice, hproduct, hrad⟩
    · rintro ⟨htwice, hproduct, hrad⟩
      exact ⟨⟨_, divisorRaw_le hrad⟩, divisorAt_eq_ok_iff.mpr ⟨hproduct, hrad, rfl⟩, hpos, htwice,
        hsold.symm⟩
  · cases h : line.soldAt R r with
    | ok c => exact Or.inl (congrArg _ (Fixed.ext_raw ((soldAt_raw h).trans hsold)))
    | error e =>
      rw [Except.error.injEq, Except.error.injEq]
      exact Or.inr (soldAt_error hpos (hsold.trans_le b.raw_le) h)

theorem soldAt_cost_sample :
    (Fixed.mk 10000000000100000000 (by decide)).value =
        Genesis.sample.line.cost (Fixed.mk 200000000000000000 (by decide)).value ∧
      OnGrid Genesis.sample.line.base.value ∧ OnGrid (Genesis.sample.line.base.value ^ 2) ∧
      OnGrid (Genesis.sample.line.price (Fixed.mk 200000000000000000 (by decide)).value) ∧
      OnGrid (2 * Genesis.sample.line.slope.value *
        Genesis.sample.line.cost (Fixed.mk 200000000000000000 (by decide)).value) ∧
      Genesis.sample.line.soldAt ⟨10000000000100000000, by decide⟩ .down =
        .ok ⟨200000000000000000, by decide⟩ ∧
      Genesis.sample.line.soldAt ⟨10000000000100000000, by decide⟩ .up =
        .ok ⟨200000000000000000, by decide⟩ := by
  have hslope : Genesis.sample.line.slope.value = 1 / 200000000 := by
    simp [Genesis.sample, Ratio.value]
  have hvalue : Genesis.sample.line.base.value = 50 := by
    norm_num [Genesis.sample, Ratio.value]
  have hb : (Fixed.mk 200000000000000000 (by decide)).value = 1 / 5 := by
    norm_num [Fixed.value, scale]
  have hcost : Genesis.sample.line.cost (1 / 5) = 100000000001 / 10000000000 := by
    rw [cost_eq, hslope, hvalue]
    norm_num
  have hlast : Genesis.sample.line.price (1 / 5) = 50000000001 / 1000000000 := by
    rw [price, hslope, hvalue]
    norm_num
  have hR : (Fixed.mk 10000000000100000000 (by decide)).value =
      Genesis.sample.line.cost (Fixed.mk 200000000000000000 (by decide)).value := by
    rw [hb, hcost]
    norm_num [Fixed.value, scale]
  have hbase : OnGrid Genesis.sample.line.base.value := ⟨50 * scale, by rw [hvalue]; norm_num [scale]⟩
  have hsquare : OnGrid (Genesis.sample.line.base.value ^ 2) :=
    ⟨2500 * scale, by rw [hvalue]; norm_num [scale]⟩
  have hprice : OnGrid (Genesis.sample.line.price (Fixed.mk 200000000000000000 (by decide)).value) :=
    ⟨50000000001000000000, by rw [hb, hlast]; norm_num [scale]⟩
  have hgrowth : OnGrid (2 * Genesis.sample.line.slope.value *
      Genesis.sample.line.cost (Fixed.mk 200000000000000000 (by decide)).value) :=
    ⟨100000000001, by rw [hb, hcost, hslope]; norm_num [scale]⟩
  have hfits : Genesis.sample.line.price (Fixed.mk 200000000000000000 (by decide)).value ^ 2 * scale ≤
      maxRaw := by
    have hlimit : 2500000000100000000001 ≤ maxRaw := by decide
    rw [hb, hlast]
    refine le_of_eq_of_le ?_ (Nat.cast_le.mpr hlimit)
    norm_num [scale]
  have hsold (r : Rounding) := soldAt_cost (by decide) hR hbase hsquare hprice hgrowth r
  exact ⟨hR, hbase, hsquare, hprice, hgrowth, (hsold .down).1.mpr ⟨by decide, by decide, hfits⟩,
    (hsold .up).1.mpr ⟨by decide, by decide, hfits⟩⟩

end PriceLine

end BondingPool
