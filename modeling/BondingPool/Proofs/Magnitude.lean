import BondingPool.Proofs.Position

/-!
# How large positions get

A collateral that a trade asks about is less than two words. For such a collateral nothing in a position
is too large, so the position exists unless its divisor rounds to zero, which a divisor rounded up never
does. What a position may still be too large for is the collateral computed from it: the product with the
slope is bounded by the divisor's root, whether the growth under that root was rounded away or not, and
only the square itself has no bound when the slope is zero.
-/

namespace BondingPool

def maxPooled : ℕ := 2 * maxWord * scale

def rootScale : ℕ := 1000000000

theorem rootScale_mul_rootScale : rootScale * rootScale = scale := by decide

theorem Word.mul_scale_le_maxPooled (w : Word) : w.val * scale ≤ maxPooled := by
  apply Nat.mul_le_mul_right
  have h := w.val_le
  omega

theorem Word.add_mul_scale_le_maxPooled (v w : Word) : (v.val + w.val) * scale ≤ maxPooled := by
  apply Nat.mul_le_mul_right
  have hv := v.val_le
  have hw := w.val_le
  omega

namespace PriceLine

open Fixed (Failure)

variable {line : PriceLine} {b c x : Fixed} {r : Rounding} {n v w : ℕ}

theorem growth_le (line : PriceLine) (hn : n ≤ maxPooled) :
    n * (2 * line.slope.num.val) ≤ maxPooled * (2 * maxWord) :=
  Nat.mul_le_mul hn (Nat.mul_le_mul_left 2 line.slope.num.val_le)

theorem radicandRaw_le (line : PriceLine) (hn : n ≤ maxPooled) (r : Rounding) :
    line.radicandRaw n r ≤ maxRaw := by
  have hgrowth := (divRounded_le_self r _ line.slope.den.val).trans (line.growth_le hn)
  calc line.radicandRaw n r ≤ maxWord * maxWord * scale + maxPooled * (2 * maxWord) :=
      Nat.add_le_add (line.base_square_raw_le r) hgrowth
    _ ≤ maxRaw := by decide

theorem exists_divisorAt (line : PriceLine) (hx : x.raw ≤ maxPooled) (r : Rounding) :
    ∃ d, line.divisorAt x r = .ok d ∧ d.raw = line.divisorRaw x.raw r := by
  have hrad := line.radicandRaw_le hx r
  have hgrowth := (line.growth_le hx).trans (by decide : _ ≤ maxRaw)
  refine ⟨⟨line.divisorRaw x.raw r, divisorRaw_le hrad⟩, ?_, rfl⟩
  exact divisorAt_eq_ok_iff.mpr ⟨hgrowth, hrad, rfl⟩

def soldRaw (line : PriceLine) (collateral : ℕ) (r : Rounding) : ℕ :=
  divRounded r (collateral * 2 * scale) (line.divisorRaw collateral r.opposite)

theorem soldRaw_le (line : PriceLine) (n : ℕ) (r : Rounding) : line.soldRaw n r ≤ n * 2 * scale :=
  divRounded_le_self r _ _

theorem exists_soldAt (hx : x.raw ≤ maxPooled)
    (hd : x.raw ≠ 0 → line.divisorRaw x.raw r.opposite ≠ 0) :
    ∃ b, line.soldAt x r = .ok b ∧ b.raw = line.soldRaw x.raw r := by
  by_cases h0 : x.raw = 0
  · refine ⟨.zero, soldAt_of_raw_eq_zero h0 r, ?_⟩
    simp [soldRaw, h0, Fixed.zero]
  · obtain ⟨d, hdivisor, hraw⟩ := line.exists_divisorAt hx r.opposite
    have hsold : line.soldRaw x.raw r ≤ maxRaw :=
      (line.soldRaw_le x.raw r).trans ((Nat.mul_le_mul_right scale (Nat.mul_le_mul_right 2 hx)).trans
        (by decide))
    have htwice : x.raw * 2 ≤ maxRaw := (Nat.mul_le_mul_right 2 hx).trans (by decide)
    refine ⟨⟨line.soldRaw x.raw r, hsold⟩, ?_, rfl⟩
    refine (soldAt_eq_ok_iff h0).mpr ⟨d, hdivisor, hraw ▸ hd h0, htwice, ?_⟩
    rw [hraw]
    rfl

theorem soldAt_raw (h : line.soldAt x r = .ok b) : b.raw = line.soldRaw x.raw r := by
  by_cases h0 : x.raw = 0
  · rw [soldAt_of_raw_eq_zero h0] at h
    cases h
    simp [soldRaw, h0, Fixed.zero]
  · obtain ⟨d, hd, -, -, hb⟩ := (soldAt_eq_ok_iff h0).mp h
    obtain ⟨-, -, hraw⟩ := divisorAt_eq_ok_iff.mp hd
    rw [hb, hraw, soldRaw]

theorem soldAt_eq_degenerate (hx : x.raw ≤ maxPooled) (h0 : x.raw ≠ 0)
    (hd : line.divisorRaw x.raw r.opposite = 0) : line.soldAt x r = .error .degenerateSolve := by
  obtain ⟨d, hdivisor, hraw⟩ := line.exists_divisorAt hx r.opposite
  have hzero : x.isZero = false := by simpa [Fixed.isZero] using h0
  have hdzero : d.isZero = true := by simp [Fixed.isZero, hraw, hd]
  rw [soldAt, hzero, hdivisor, ok_bind, hdzero]
  rfl

/-! ### When the divisor vanishes -/

theorem le_rootRounded (h : v * v ≤ n) (r : Rounding) : v ≤ rootRounded r n := by
  cases r with
  | down => exact le_rootRounded_down_iff.mpr h
  | up =>
    have hsq := rootRounded_up_le_iff.mp (le_refl (rootRounded .up n))
    exact Nat.mul_self_le_mul_self_iff.mp (h.trans hsq)

theorem rootScale_le_rootRaw (h : 0 < line.radicandRaw n r) : rootScale ≤ line.rootRaw n r := by
  apply le_rootRounded
  rw [rootScale_mul_rootScale]
  exact Nat.le_mul_of_pos_left scale h

theorem radicandRaw_up_pos (line : PriceLine) (hn : 0 < n) : 0 < line.radicandRaw n .up := by
  rcases line.positive with h | h
  · have hpos := Nat.pos_of_ne_zero h
    exact Nat.add_pos_right _ (divRounded_up_pos (by positivity) line.slope.den_pos)
  · have hpos := Nat.pos_of_ne_zero h
    have hden := Nat.mul_pos line.base.den_pos line.base.den_pos
    exact Nat.add_pos_left
      (divRounded_up_pos (Nat.mul_pos (Nat.mul_pos hpos hpos) scale_pos) hden) _

theorem rootScale_le_divisorRaw_up (line : PriceLine) (hn : n ≠ 0) :
    rootScale ≤ line.divisorRaw n .up :=
  (rootScale_le_rootRaw (line.radicandRaw_up_pos (Nat.pos_of_ne_zero hn))).trans
    (Nat.le_add_left _ _)

theorem divisorRaw_up_ne_zero (line : PriceLine) (hn : n ≠ 0) : line.divisorRaw n .up ≠ 0 :=
  ((by decide : 0 < rootScale).trans_le (line.rootScale_le_divisorRaw_up hn)).ne'

theorem baseRaw_down_eq_zero_iff :
    line.baseRaw .down = 0 ↔ line.base.num.val * scale < line.base.den.val :=
  divRounded_down_eq_zero_iff line.base.den_pos

theorem rootRaw_down_eq_zero_iff : line.rootRaw n .down = 0 ↔ line.radicandRaw n .down = 0 := by
  constructor
  · intro h
    by_contra hne
    have hle := rootScale_le_rootRaw (Nat.pos_of_ne_zero hne)
    rw [h] at hle
    exact absurd hle (by decide)
  · intro h
    simp [rootRaw, h, rootRounded]

theorem base_square_lt (h : line.base.num.val * scale < line.base.den.val) :
    line.base.num.val * line.base.num.val * scale < line.base.den.val * line.base.den.val := by
  calc line.base.num.val * line.base.num.val * scale
      ≤ line.base.num.val * scale * (line.base.num.val * scale) := by
        rw [mul_mul_mul_comm, ← mul_assoc]
        exact Nat.le_mul_of_pos_right _ scale_pos
    _ < line.base.den.val * line.base.den.val := Nat.mul_self_lt_mul_self h

theorem divisorRaw_down_eq_zero_iff :
    line.divisorRaw n .down = 0 ↔
      line.base.num.val * scale < line.base.den.val ∧
        n * (2 * line.slope.num.val) < line.slope.den.val := by
  have hden := Nat.mul_pos line.base.den_pos line.base.den_pos
  rw [divisorRaw, Nat.add_eq_zero_iff, baseRaw_down_eq_zero_iff, rootRaw_down_eq_zero_iff,
    radicandRaw, Nat.add_eq_zero_iff, divRounded_down_eq_zero_iff hden,
    divRounded_down_eq_zero_iff line.slope.den_pos]
  refine and_congr_right fun hbase => and_iff_right (base_square_lt hbase)

/-! ### Roots that were rounded up -/

theorem radicandRaw_mul_scale_le (line : PriceLine) (n : ℕ) :
    line.radicandRaw n .up * scale ≤ line.rootRaw n .up * line.rootRaw n .up :=
  rootRounded_up_le_iff.mp le_rfl

theorem growth_le_radicandRaw (line : PriceLine) (n : ℕ) :
    n * (2 * line.slope.num.val) ≤ line.radicandRaw n .up * line.slope.den.val :=
  ((divRounded_up_le_iff line.slope.den_pos).mp le_rfl).trans
    (Nat.mul_le_mul_right _ (Nat.le_add_left _ _))

/-! ### Bounds on what is computed from a position -/

theorem soldRaw_le_of_rootScale_le (hd : n ≠ 0 → rootScale ≤ line.divisorRaw n r.opposite) :
    line.soldRaw n r ≤ n * 2 * rootScale := by
  by_cases h0 : n = 0
  · simp [soldRaw, h0]
  · have hle := hd h0
    apply divRounded_le_of_le_mul r ((by decide : 0 < rootScale).trans_le hle)
    calc n * 2 * scale = n * 2 * rootScale * rootScale := by
          rw [← rootScale_mul_rootScale, ← mul_assoc]
      _ ≤ n * 2 * rootScale * line.divisorRaw n r.opposite := Nat.mul_le_mul_left _ hle

theorem sq_mul_slope_le {q t c : ℕ} (hn : 0 < n) (hquot : q * t ≤ n * 2 * scale)
    (hroot : n * line.slope.num.val * scale ≤ c * (t * t) * line.slope.den.val) :
    q * q * line.slope.num.val ≤ 4 * c * (n * scale * line.slope.den.val) := by
  apply Nat.le_of_mul_le_mul_left _ (Nat.mul_pos hn scale_pos)
  calc n * scale * (q * q * line.slope.num.val)
      = q * q * (n * line.slope.num.val * scale) := by ring
    _ ≤ q * q * (c * (t * t) * line.slope.den.val) := by gcongr
    _ = c * (q * t * (q * t)) * line.slope.den.val := by ring
    _ ≤ c * (n * 2 * scale * (n * 2 * scale)) * line.slope.den.val := by gcongr
    _ = n * scale * (4 * c * (n * scale * line.slope.den.val)) := by ring

theorem soldRaw_down_sq_le (line : PriceLine) (n : ℕ) :
    line.soldRaw n .down * line.soldRaw n .down * line.slope.num.val ≤
      4 * (n * scale * line.slope.den.val) := by
  by_cases h0 : n = 0
  · simp [soldRaw, h0]
  · have hd := Nat.pos_of_ne_zero (line.divisorRaw_up_ne_zero h0)
    have hquot := (le_divRounded_down_iff hd).mp (le_refl (line.soldRaw n .down))
    have hroot : line.rootRaw n .up ≤ line.divisorRaw n .up := Nat.le_add_left _ _
    have hsquare := line.radicandRaw_mul_scale_le n
    have hgrowth := line.growth_le_radicandRaw n
    apply sq_mul_slope_le (c := 1) (Nat.pos_of_ne_zero h0)
      ((Nat.mul_le_mul_left _ hroot).trans hquot)
    calc n * line.slope.num.val * scale ≤ n * (2 * line.slope.num.val) * scale := by
          gcongr
          omega
      _ ≤ line.radicandRaw n .up * line.slope.den.val * scale := by gcongr
      _ = line.radicandRaw n .up * scale * line.slope.den.val := by ring
      _ ≤ 1 * (line.rootRaw n .up * line.rootRaw n .up) * line.slope.den.val := by
          rw [one_mul]
          gcongr

theorem growth_lt_of_le (h : line.slope.den.val ≤ n * (2 * line.slope.num.val)) :
    n * line.slope.num.val * scale <
      4 * (line.rootRaw n .down * line.rootRaw n .down) * line.slope.den.val := by
  have hden := line.slope.den_pos
  set g := divRounded .down (n * (2 * line.slope.num.val)) line.slope.den.val with hg
  have hone : 1 ≤ g := (le_divRounded_down_iff hden).mpr (by rwa [one_mul])
  have hlt : n * (2 * line.slope.num.val) < (g + 1) * line.slope.den.val :=
    lt_divRounded_down_succ_mul _ hden
  have hgrowth : n * line.slope.num.val < g * line.slope.den.val := by nlinarith
  have hrad : g ≤ line.radicandRaw n .down := Nat.le_add_left _ _
  have hroot : 1 ≤ line.rootRaw n .down :=
    (by decide : 1 ≤ rootScale).trans (rootScale_le_rootRaw (hone.trans hrad))
  have hfloor : line.radicandRaw n .down * scale <
      (line.rootRaw n .down + 1) * (line.rootRaw n .down + 1) := Nat.lt_succ_sqrt _
  have hfour : (line.rootRaw n .down + 1) * (line.rootRaw n .down + 1) ≤
      4 * (line.rootRaw n .down * line.rootRaw n .down) := by nlinarith
  calc n * line.slope.num.val * scale < g * line.slope.den.val * scale :=
        Nat.mul_lt_mul_of_pos_right hgrowth scale_pos
    _ = g * scale * line.slope.den.val := by ring
    _ ≤ line.radicandRaw n .down * scale * line.slope.den.val := by gcongr
    _ ≤ 4 * (line.rootRaw n .down * line.rootRaw n .down) * line.slope.den.val :=
        Nat.mul_le_mul_right _ (hfloor.le.trans hfour)

theorem soldRaw_up_sq_le (h : line.slope.den.val ≤ n * (2 * line.slope.num.val)) :
    line.soldRaw n .up * line.soldRaw n .up * line.slope.num.val ≤
      32 * (n * scale * line.slope.den.val) + 2 * line.slope.num.val := by
  have hn : 0 < n := by
    have hden := line.slope.den_pos
    by_contra h0
    simp [Nat.eq_zero_of_not_pos h0] at h
    omega
  -- one less than the rounded quotient is a quotient that was not rounded up
  set q := line.soldRaw n .up - 1 with hq
  have hquot : q * line.divisorRaw n .down ≤ n * 2 * scale := pred_divRounded_up_mul_le _ _
  have hroot : line.rootRaw n .down ≤ line.divisorRaw n .down := Nat.le_add_left _ _
  have hpred : q * q * line.slope.num.val ≤ 4 * 4 * (n * scale * line.slope.den.val) :=
    sq_mul_slope_le hn ((Nat.mul_le_mul_left q hroot).trans hquot) (growth_lt_of_le h).le
  have hsucc : line.soldRaw n .up ≤ q + 1 := by omega
  have hmean := two_mul_le_add_sq q 1
  have hsquare : line.soldRaw n .up * line.soldRaw n .up ≤ 2 * (q * q) + 2 := by
    have hmul := Nat.mul_self_le_mul_self hsucc
    linarith
  calc line.soldRaw n .up * line.soldRaw n .up * line.slope.num.val
      ≤ (2 * (q * q) + 2) * line.slope.num.val := by gcongr
    _ = 2 * (q * q * line.slope.num.val) + 2 * line.slope.num.val := by ring
    _ ≤ 32 * (n * scale * line.slope.den.val) + 2 * line.slope.num.val := by omega

/-! ### The collateral of a position -/

theorem mul_word_le (hn : n ≤ maxPooled) (hv : v ≤ line.soldRaw n r) (w : Word) :
    v * w.val ≤ maxRaw / 2 := by
  calc v * w.val ≤ maxPooled * 2 * scale * maxWord := by
        apply Nat.mul_le_mul _ w.val_le
        exact (hv.trans (line.soldRaw_le n r)).trans
          (Nat.mul_le_mul_right scale (Nat.mul_le_mul_right 2 hn))
    _ ≤ maxRaw / 2 := by decide

theorem square_le_of_rootScale_le (hn : n ≤ maxPooled)
    (hd : n ≠ 0 → rootScale ≤ line.divisorRaw n r.opposite) (hv : v ≤ line.soldRaw n r) :
    squareRaw v .up ≤ maxRaw := by
  have hle : v ≤ maxPooled * 2 * rootScale :=
    (hv.trans (soldRaw_le_of_rootScale_le hd)).trans
      (Nat.mul_le_mul_right rootScale (Nat.mul_le_mul_right 2 hn))
  apply (divRounded_up_le_iff scale_pos).mpr
  exact (Nat.mul_self_le_mul_self hle).trans (by decide)

theorem quadratic_le_of_le_reach (hn : n ≤ maxPooled) (hv : v ≤ line.soldRaw n .down) :
    squareRaw v .up * line.slope.num.val ≤ maxRaw / 2 := by
  have hsquare : squareRaw v .up ≤ line.soldRaw n .down * line.soldRaw n .down :=
    (divRounded_le_self .up _ _).trans (Nat.mul_self_le_mul_self hv)
  calc squareRaw v .up * line.slope.num.val
      ≤ line.soldRaw n .down * line.soldRaw n .down * line.slope.num.val :=
        Nat.mul_le_mul_right _ hsquare
    _ ≤ 4 * (n * scale * line.slope.den.val) := line.soldRaw_down_sq_le n
    _ ≤ 4 * (maxPooled * scale * maxWord) := by
        have hden := line.slope.den.val_le
        gcongr
    _ ≤ maxRaw / 2 := by decide

theorem quadratic_le_of_le_sold (hn : n ≤ maxWord * scale) (hv : v ≤ line.soldRaw n .up) :
    squareRaw v .up * line.slope.num.val ≤ maxRaw / 2 := by
  have hs := line.slope.num.val_le
  by_cases h : line.slope.den.val ≤ n * (2 * line.slope.num.val)
  · have hsquare : squareRaw v .up ≤ line.soldRaw n .up * line.soldRaw n .up :=
      (divRounded_le_self .up _ _).trans (Nat.mul_self_le_mul_self hv)
    have hden := line.slope.den.val_le
    calc squareRaw v .up * line.slope.num.val
        ≤ line.soldRaw n .up * line.soldRaw n .up * line.slope.num.val :=
          Nat.mul_le_mul_right _ hsquare
      _ ≤ 32 * (n * scale * line.slope.den.val) + 2 * line.slope.num.val := soldRaw_up_sq_le h
      _ ≤ 32 * (maxWord * scale * scale * maxWord) + 2 * maxWord := by gcongr
      _ ≤ maxRaw / 2 := by decide
  · by_cases h0 : line.slope.num.val = 0
    · simp [h0]
    -- the growth is rounded away, but only for a collateral below one over the slope
    · have hsmall : n * 2 ≤ maxWord := by
        have hden := line.slope.den.val_le
        have hmul := Nat.le_mul_of_pos_right (n * 2) (Nat.pos_of_ne_zero h0)
        rw [mul_assoc] at hmul
        omega
      have hle : v ≤ maxWord * scale :=
        (hv.trans (line.soldRaw_le n _)).trans (Nat.mul_le_mul_right scale hsmall)
      have hsquare : squareRaw v .up ≤ maxWord * maxWord * scale := by
        apply (divRounded_up_le_iff scale_pos).mpr
        calc v * v ≤ maxWord * scale * (maxWord * scale) := Nat.mul_self_le_mul_self hle
          _ = maxWord * maxWord * scale * scale := by ring
      exact (Nat.mul_le_mul hsquare hs).trans (by decide)

theorem exists_collateralAt (hsquare : squareRaw b.raw r ≤ maxRaw)
    (hquadratic : squareRaw b.raw r * line.slope.num.val ≤ maxRaw / 2)
    (hlinear : b.raw * line.base.num.val ≤ maxRaw / 2) : ∃ c, line.collateralAt b r = .ok c := by
  have hsum : line.collateralRaw b.raw r ≤ maxRaw := by
    have hq := (divRounded_le_self r _ (2 * line.slope.den.val)).trans hquadratic
    have hl := (divRounded_le_self r _ line.base.den.val).trans hlinear
    rw [collateralRaw]
    omega
  refine ⟨⟨line.collateralRaw b.raw r, hsum⟩, collateralAt_eq_ok_iff.mpr ?_⟩
  exact ⟨hsquare, hquadratic.trans (Nat.div_le_self _ _), hlinear.trans (Nat.div_le_self _ _), rfl⟩

theorem collateralAt_eq_error_iff {failure : Failure}
    (hquadratic : squareRaw b.raw r * line.slope.num.val ≤ maxRaw / 2)
    (hlinear : b.raw * line.base.num.val ≤ maxRaw / 2) :
    line.collateralAt b r = .error failure ↔
      maxRaw < squareRaw b.raw r ∧ failure = .productTooLarge := by
  by_cases h : squareRaw b.raw r ≤ maxRaw
  · obtain ⟨c, hc⟩ := exists_collateralAt h hquadratic hlinear
    simp [hc, Nat.not_lt.mpr h]
  · have hlt := Nat.not_le.mp h
    simp [collateralAt_of_square_lt hlt, hlt, eq_comm]

end PriceLine

end BondingPool
