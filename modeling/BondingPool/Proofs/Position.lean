import BondingPool.PriceLine.Position
import BondingPool.Proofs.Fixed

/-!
# Positions and collateral in raw units

The positions, prices and collateral of a line as natural numbers, with the exact conditions under
which the fixed-point ones exist. The terms of a line are words, so a term by itself always fits; what
can fail is a product with the number the line is asked about, a sum, or a divisor that rounds to zero.
-/

namespace BondingPool

theorem Word.mul_scale_le (w : Word) : w.val * scale ≤ maxRaw :=
  (Nat.mul_le_mul_right scale w.val_le).trans (by decide)

theorem Word.two_mul_scale_le (w : Word) : 2 * w.val * scale ≤ maxRaw :=
  (Nat.mul_le_mul_right scale (Nat.mul_le_mul_left 2 w.val_le)).trans (by decide)

theorem Word.mul_self_scale_le (w : Word) : w.val * w.val * scale ≤ maxRaw :=
  (Nat.mul_le_mul_right scale (Nat.mul_le_mul w.val_le w.val_le)).trans (by decide)

namespace PriceLine

variable {line : PriceLine} {b c d x : Fixed} {r : Rounding}

def radicandRaw (line : PriceLine) (collateral : ℕ) (r : Rounding) : ℕ :=
  divRounded r (line.base.num.val * line.base.num.val * scale)
      (line.base.den.val * line.base.den.val) +
    divRounded r (collateral * (2 * line.slope.num.val)) line.slope.den.val

def rootRaw (line : PriceLine) (collateral : ℕ) (r : Rounding) : ℕ :=
  rootRounded r (line.radicandRaw collateral r * scale)

def baseRaw (line : PriceLine) (r : Rounding) : ℕ :=
  divRounded r (line.base.num.val * scale) line.base.den.val

def divisorRaw (line : PriceLine) (collateral : ℕ) (r : Rounding) : ℕ :=
  line.baseRaw r + line.rootRaw collateral r

def squareRaw (b : ℕ) (r : Rounding) : ℕ := divRounded r (b * b) scale

def collateralRaw (line : PriceLine) (b : ℕ) (r : Rounding) : ℕ :=
  divRounded r (squareRaw b r * line.slope.num.val) (2 * line.slope.den.val) +
    divRounded r (b * line.base.num.val) line.base.den.val

def priceRaw (line : PriceLine) (b : ℕ) (r : Rounding) : ℕ :=
  divRounded r (b * line.slope.num.val) line.slope.den.val + line.baseRaw r

theorem base_fraction_eq (line : PriceLine) (r : Rounding) :
    Fixed.ofFraction line.base.num.val line.base.den.val r =
      Fixed.fit (line.baseRaw r) .rawTooLarge :=
  Fixed.ofFraction_eq line.base.den_pos line.base.num.mul_scale_le

theorem base_square_eq (line : PriceLine) (r : Rounding) :
    Fixed.ofFraction (line.base.num.val * line.base.num.val)
        (line.base.den.val * line.base.den.val) r =
      Fixed.fit (divRounded r (line.base.num.val * line.base.num.val * scale)
        (line.base.den.val * line.base.den.val)) .rawTooLarge := by
  have hpos := Nat.mul_pos line.base.den_pos line.base.den_pos
  exact_mod_cast Fixed.ofFraction_eq hpos line.base.num.mul_self_scale_le

theorem baseRaw_le (line : PriceLine) (r : Rounding) : line.baseRaw r ≤ maxWord * scale :=
  (divRounded_le_self r _ _).trans
    (Nat.mul_le_mul_right scale line.base.num.val_le)

theorem base_square_raw_le (line : PriceLine) (r : Rounding) :
    divRounded r (line.base.num.val * line.base.num.val * scale)
      (line.base.den.val * line.base.den.val) ≤ maxWord * maxWord * scale :=
  (divRounded_le_self r _ _).trans
    (Nat.mul_le_mul_right scale (Nat.mul_le_mul line.base.num.val_le line.base.num.val_le))

theorem divisorRaw_le (h : line.radicandRaw x.raw r ≤ maxRaw) :
    line.divisorRaw x.raw r ≤ maxRaw := by
  -- the root of a number that fits is far below the limit
  have hroot : line.rootRaw x.raw r ≤ 2 ^ 255 := by
    have hle : line.radicandRaw x.raw r * scale ≤ 2 ^ 255 * 2 ^ 255 :=
      (Nat.mul_le_mul_right scale h).trans (by decide)
    cases r with
    | down => exact (Nat.sqrt_le_sqrt hle).trans (Nat.sqrt_eq (2 ^ 255)).le
    | up => exact rootRounded_up_le_iff.mpr hle
  calc line.divisorRaw x.raw r ≤ maxWord * scale + 2 ^ 255 :=
      Nat.add_le_add (line.baseRaw_le r) hroot
    _ ≤ maxRaw := by decide

theorem divisorAt_eq_ok_iff :
    line.divisorAt x r = .ok d ↔
      x.raw * (2 * line.slope.num.val) ≤ maxRaw ∧ line.radicandRaw x.raw r ≤ maxRaw ∧
        d.raw = line.divisorRaw x.raw r := by
  have hsquare := (line.base_square_raw_le r).trans (by decide : _ ≤ maxRaw)
  have hbase := (line.baseRaw_le r).trans (by decide : _ ≤ maxRaw)
  rw [divisorAt, base_square_eq, base_fraction_eq, Fixed.fit_of_le hsquare, Fixed.fit_of_le hbase]
  simp only [bind_eq_ok_iff, Except.ok.injEq, exists_eq_left', Fixed.sqrt_eq, Fixed.add,
    Fixed.fit_eq_ok_iff,
    Fixed.timesRatio_eq_ok_iff line.slope.num.two_mul_scale_le line.slope.den.mul_scale_le
      line.slope.den_pos]
  constructor
  · rintro ⟨growth, ⟨hproduct, hgrowth⟩, sum, hsum, hd⟩
    have hrad : sum.raw = line.radicandRaw x.raw r := by rw [hsum, hgrowth, radicandRaw]
    rw [hrad] at hd
    exact ⟨hproduct, hrad ▸ sum.raw_le, hd⟩
  · rintro ⟨hproduct, hrad, hd⟩
    have hgrowth := (divRounded_le_self r _ line.slope.den.val).trans hproduct
    exact ⟨⟨_, hgrowth⟩, ⟨hproduct, rfl⟩, ⟨_, hrad⟩, rfl, hd⟩

theorem soldAt_eq_ok_iff (hx : x.raw ≠ 0) :
    line.soldAt x r = .ok b ↔
      ∃ d, line.divisorAt x r.opposite = .ok d ∧ d.raw ≠ 0 ∧ x.raw * 2 ≤ maxRaw ∧
        b.raw = divRounded r (x.raw * 2 * scale) d.raw := by
  have hzero : x.isZero = false := by simpa [Fixed.isZero] using hx
  have htwo : Fixed.ofInt 2 = .ok ⟨2 * scale, by decide⟩ :=
    (Fixed.ofInt_natCast 2).trans (Fixed.fit_of_le _)
  simp only [soldAt, hzero, Bool.false_eq_true, ↓reduceIte, bind_eq_ok_iff]
  refine exists_congr fun d => and_congr_right fun _ => ?_
  by_cases hd : d.raw = 0
  · simp [Fixed.isZero, hd]
  · simp only [Fixed.isZero, beq_iff_eq, hd, ↓reduceIte, htwo, bind_eq_ok_iff, Except.ok.injEq,
      exists_eq_left', Fixed.mul_eq, Fixed.divRounded_mul_scale, Fixed.fit_eq_ok_iff,
      Fixed.div_eq _ hd, ne_eq, not_false_eq_true, true_and]
    constructor
    · rintro ⟨twice, htwice, hb⟩
      exact ⟨htwice ▸ twice.raw_le, by rw [hb, htwice]⟩
    · rintro ⟨hle, hb⟩
      exact ⟨⟨_, hle⟩, rfl, hb⟩

theorem soldAt_of_raw_eq_zero (hx : x.raw = 0) (r : Rounding) : line.soldAt x r = .ok .zero := by
  obtain rfl : x = .zero := Fixed.ext_raw hx
  exact line.soldAt_zero r

theorem collateralAt_eq_ok_iff :
    line.collateralAt b r = .ok c ↔
      squareRaw b.raw r ≤ maxRaw ∧ squareRaw b.raw r * line.slope.num.val ≤ maxRaw ∧
        b.raw * line.base.num.val ≤ maxRaw ∧ c.raw = line.collateralRaw b.raw r := by
  have hden := Nat.mul_pos Nat.two_pos line.slope.den_pos
  simp only [collateralAt, bind_eq_ok_iff, Fixed.mul_eq, Fixed.add, Fixed.fit_eq_ok_iff,
    Fixed.timesRatio_eq_ok_iff line.slope.num.mul_scale_le line.slope.den.two_mul_scale_le hden,
    Fixed.timesRatio_eq_ok_iff line.base.num.mul_scale_le line.base.den.mul_scale_le
      line.base.den_pos]
  constructor
  · rintro ⟨square, hsquare, quadratic, ⟨hrise, hquadratic⟩, linear, ⟨hbase, hlinear⟩, hc⟩
    have hs : square.raw = squareRaw b.raw r := hsquare
    rw [hs] at hrise hquadratic
    exact ⟨hs ▸ square.raw_le, hrise, hbase, by rw [hc, hquadratic, hlinear, collateralRaw]⟩
  · rintro ⟨hsquare, hrise, hbase, hc⟩
    have hquadratic := (divRounded_le_self r _ (2 * line.slope.den.val)).trans hrise
    have hlinear := (divRounded_le_self r _ line.base.den.val).trans hbase
    exact ⟨⟨_, hsquare⟩, rfl, ⟨_, hquadratic⟩, ⟨hrise, rfl⟩, ⟨_, hlinear⟩, ⟨hbase, rfl⟩, hc⟩

theorem priceAt_eq_ok_iff :
    line.priceAt b r = .ok c ↔
      b.raw * line.slope.num.val ≤ maxRaw ∧ c.raw = line.priceRaw b.raw r := by
  have hbase := (line.baseRaw_le r).trans (by decide : _ ≤ maxRaw)
  rw [priceAt, base_fraction_eq, Fixed.fit_of_le hbase]
  simp only [bind_eq_ok_iff, Except.ok.injEq, exists_eq_left', Fixed.add, Fixed.fit_eq_ok_iff,
    Fixed.timesRatio_eq_ok_iff line.slope.num.mul_scale_le line.slope.den.mul_scale_le
      line.slope.den_pos]
  constructor
  · rintro ⟨rise, ⟨hproduct, hrise⟩, hc⟩
    exact ⟨hproduct, by rw [hc, hrise, priceRaw]⟩
  · rintro ⟨hproduct, hc⟩
    have hrise := (divRounded_le_self r _ line.slope.den.val).trans hproduct
    exact ⟨⟨_, hrise⟩, ⟨hproduct, rfl⟩, hc⟩

theorem collateralAt_zero (h : line.collateralAt .zero r = .ok c) : c = .zero := by
  obtain ⟨-, -, -, hc⟩ := collateralAt_eq_ok_iff.mp h
  exact Fixed.ext_raw (hc.trans (by simp [collateralRaw, squareRaw, Fixed.zero]))

theorem exists_collateralAt_of_le (h : line.collateralAt b r = .ok c) (hle : x ≤ b) :
    ∃ part, line.collateralAt x r = .ok part ∧ part ≤ c := by
  obtain ⟨hsquare, hrise, hbase, hc⟩ := collateralAt_eq_ok_iff.mp h
  have hraw : x.raw ≤ b.raw := Fixed.le_iff_raw.mp hle
  have hsquare' : squareRaw x.raw r ≤ squareRaw b.raw r :=
    divRounded_mono r scale scale_pos (Nat.mul_self_le_mul_self hraw)
  have hrise' := Nat.mul_le_mul_right line.slope.num.val hsquare'
  have hbase' := Nat.mul_le_mul_right line.base.num.val hraw
  have hden := Nat.mul_pos Nat.two_pos line.slope.den_pos
  have hpart : line.collateralRaw x.raw r ≤ c.raw := by
    rw [hc]
    exact Nat.add_le_add (divRounded_mono r _ hden hrise')
      (divRounded_mono r _ line.base.den_pos hbase')
  refine ⟨⟨_, hpart.trans c.raw_le⟩, collateralAt_eq_ok_iff.mpr ?_, Fixed.le_iff_raw.mpr hpart⟩
  exact ⟨hsquare'.trans hsquare, hrise'.trans hrise, hbase'.trans hbase, rfl⟩

theorem exists_priceAt_of_le (h : line.priceAt b r = .ok c) (hle : x ≤ b) :
    ∃ part, line.priceAt x r = .ok part ∧ part ≤ c := by
  obtain ⟨hrise, hc⟩ := priceAt_eq_ok_iff.mp h
  have hrise' := Nat.mul_le_mul_right line.slope.num.val (Fixed.le_iff_raw.mp hle)
  have hpart : line.priceRaw x.raw r ≤ c.raw := by
    rw [hc]
    exact Nat.add_le_add_right (divRounded_mono r _ line.slope.den_pos hrise') _
  refine ⟨⟨_, hpart.trans c.raw_le⟩, priceAt_eq_ok_iff.mpr ?_, Fixed.le_iff_raw.mpr hpart⟩
  exact ⟨hrise'.trans hrise, rfl⟩

theorem collateralAt_of_square_lt (h : maxRaw < squareRaw b.raw r) :
    line.collateralAt b r = .error .productTooLarge := by
  rw [squareRaw] at h
  rw [collateralAt, Fixed.mul_eq, Fixed.fit, dif_neg (Nat.not_le.mpr h), error_bind]

end PriceLine

end BondingPool
