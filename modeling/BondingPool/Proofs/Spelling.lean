import BondingPool.Proofs.Quotable

/-!
# One line, however its ratios are written

The terms of a line enter every formula as one rounded quotient, so writing them with a common factor
changes no position, price or collateral; and no product of them with what a trade asks about is too
large, so it changes no refusal either. Lines with the same ratios are one line to whoever trades.
-/

namespace BondingPool

variable {R B a : Word} {n k c : ℕ}

namespace Ratio

variable {p q : Ratio}

theorem Same.divRounded_eq (h : p.Same q) (r : Rounding) (k : ℕ) (hc : 0 < c) :
    divRounded r (k * p.num.val) (c * p.den.val) = divRounded r (k * q.num.val) (c * q.den.val) := by
  have hcross : p.num.val * q.den.val = q.num.val * p.den.val := h
  apply divRounded_congr r (Nat.mul_pos hc p.den_pos) (Nat.mul_pos hc q.den_pos)
  calc k * p.num.val * (c * q.den.val) = k * c * (p.num.val * q.den.val) := by ring
    _ = k * c * (q.num.val * p.den.val) := by rw [hcross]
    _ = k * q.num.val * (c * p.den.val) := by ring

theorem Same.divRounded_mul_eq (h : p.Same q) (r : Rounding) (k : ℕ) :
    divRounded r (k * p.num.val) p.den.val = divRounded r (k * q.num.val) q.den.val := by
  simpa only [one_mul] using h.divRounded_eq r k Nat.one_pos

theorem Same.divRounded_sq_eq (h : p.Same q) (r : Rounding) (k : ℕ) :
    divRounded r (p.num.val * p.num.val * k) (p.den.val * p.den.val) =
      divRounded r (q.num.val * q.num.val * k) (q.den.val * q.den.val) := by
  have hcross : p.num.val * q.den.val = q.num.val * p.den.val := h
  apply divRounded_congr r (Nat.mul_pos p.den_pos p.den_pos) (Nat.mul_pos q.den_pos q.den_pos)
  calc p.num.val * p.num.val * k * (q.den.val * q.den.val)
      = p.num.val * q.den.val * (p.num.val * q.den.val) * k := by ring
    _ = q.num.val * p.den.val * (q.num.val * p.den.val) * k := by rw [hcross]
    _ = q.num.val * q.num.val * k * (p.den.val * p.den.val) := by ring

theorem Same.num_eq_zero_iff (h : p.Same q) : p.num.val = 0 ↔ q.num.val = 0 := by
  have hcross : p.num.val * q.den.val = q.num.val * p.den.val := h
  have hp := p.den_pos
  have hq := q.den_pos
  constructor
  · intro hzero
    rw [hzero, zero_mul] at hcross
    exact (mul_eq_zero.mp hcross.symm).resolve_right hp.ne'
  · intro hzero
    rw [hzero, zero_mul] at hcross
    exact (mul_eq_zero.mp hcross).resolve_right hq.ne'

theorem Same.reduced_eq (h : p.Same q) : p.reduced = q.reduced := by
  have hcross : (p.num.val : ℤ) * q.den.val = q.num.val * p.den.val := by exact_mod_cast h
  have hnorm := (Rat.normalize_eq_iff p.den_pos.ne' q.den_pos.ne').mpr hcross
  rw [Rat.normalize_eq, Rat.normalize_eq] at hnorm
  have hnum := congrArg Rat.num hnorm
  have hden := congrArg Rat.den hnorm
  dsimp only at hnum hden
  exact Prod.ext (by exact_mod_cast hnum) hden

end Ratio

namespace PriceLine

variable {p q : PriceLine} {b x y z : Fixed} {demand : Demand} {s s' : Sizing}

/-! ### Raw quantities -/

theorem Same.baseRaw_eq (h : p.Same q) (r : Rounding) : p.baseRaw r = q.baseRaw r := by
  simpa only [baseRaw, mul_comm scale] using h.2.divRounded_mul_eq r scale

theorem Same.radicandRaw_eq (h : p.Same q) (n : ℕ) (r : Rounding) :
    p.radicandRaw n r = q.radicandRaw n r := by
  have hgrowth := h.1.divRounded_mul_eq r (n * 2)
  rw [mul_assoc, mul_assoc] at hgrowth
  rw [radicandRaw, radicandRaw, h.2.divRounded_sq_eq, hgrowth]

theorem Same.divisorRaw_eq (h : p.Same q) (n : ℕ) (r : Rounding) :
    p.divisorRaw n r = q.divisorRaw n r := by
  rw [divisorRaw, divisorRaw, rootRaw, rootRaw, h.baseRaw_eq, h.radicandRaw_eq]

theorem Same.soldRaw_eq (h : p.Same q) (n : ℕ) (r : Rounding) : p.soldRaw n r = q.soldRaw n r := by
  rw [soldRaw, soldRaw, h.divisorRaw_eq]

theorem Same.collateralRaw_eq (h : p.Same q) (n : ℕ) (r : Rounding) :
    p.collateralRaw n r = q.collateralRaw n r := by
  rw [collateralRaw, collateralRaw, h.1.divRounded_eq r _ Nat.two_pos, h.2.divRounded_mul_eq]

theorem Same.priceRaw_eq (h : p.Same q) (n : ℕ) (r : Rounding) :
    p.priceRaw n r = q.priceRaw n r := by
  rw [priceRaw, priceRaw, h.1.divRounded_mul_eq, h.baseRaw_eq]

theorem Same.identity_eq (h : p.Same q) : p.identity = q.identity := by
  rw [identity, identity, identityBytes, identityBytes, Ratio.reducedJson, Ratio.reducedJson,
    Ratio.reducedJson, Ratio.reducedJson, h.1.reduced_eq, h.2.reduced_eq]

/-! ### Answers where both lines have one -/

theorem Same.sold_unique (h : p.Same q) {r : Rounding} (hy : p.soldAt x r = .ok y)
    (hz : q.soldAt x r = .ok z) : y = z :=
  Fixed.ext_raw (by rw [soldAt_raw hy, soldAt_raw hz, h.soldRaw_eq])

theorem Same.collateral_unique (h : p.Same q) {r : Rounding} (hy : p.collateralAt b r = .ok y)
    (hz : q.collateralAt b r = .ok z) : y = z := by
  obtain ⟨-, -, -, hyraw⟩ := collateralAt_eq_ok_iff.mp hy
  obtain ⟨-, -, -, hzraw⟩ := collateralAt_eq_ok_iff.mp hz
  exact Fixed.ext_raw (by rw [hyraw, hzraw, h.collateralRaw_eq])

theorem Same.price_unique (h : p.Same q) {r : Rounding} (hy : p.priceAt b r = .ok y)
    (hz : q.priceAt b r = .ok z) : y = z := by
  obtain ⟨-, hyraw⟩ := priceAt_eq_ok_iff.mp hy
  obtain ⟨-, hzraw⟩ := priceAt_eq_ok_iff.mp hz
  exact Fixed.ext_raw (by rw [hyraw, hzraw, h.priceRaw_eq])

/-! ### Refusals -/

theorem Same.degenerate_iff (h : p.Same q) : p.Degenerate n ↔ q.Degenerate n := by
  rw [PriceLine.degenerate_iff, PriceLine.degenerate_iff, h.divisorRaw_eq]

theorem Same.soldAt_eq (h : p.Same q) (hx : x.raw ≤ maxPooled) (r : Rounding) :
    p.soldAt x r = q.soldAt x r := by
  by_cases hd : x.raw ≠ 0 ∧ p.divisorRaw x.raw r.opposite = 0
  · obtain ⟨h0, hzero⟩ := hd
    rw [soldAt_eq_degenerate hx h0 hzero,
      soldAt_eq_degenerate hx h0 ((h.divisorRaw_eq _ _).symm.trans hzero)]
  · have hdivisor : x.raw ≠ 0 → p.divisorRaw x.raw r.opposite ≠ 0 := fun h0 hzero => hd ⟨h0, hzero⟩
    obtain ⟨y, hy, -⟩ := exists_soldAt hx hdivisor
    rw [h.divisorRaw_eq] at hdivisor
    obtain ⟨z, hz, -⟩ := exists_soldAt hx hdivisor
    rw [hy, hz, h.sold_unique hy hz]

theorem Same.squareOverflows_iff (h : p.Same q) :
    p.SquareOverflows R.val a.val ↔ q.SquareOverflows R.val a.val := by
  rw [SquareOverflows, SquareOverflows, h.1.num_eq_zero_iff]
  refine and_congr_right fun _ => exists_congr fun held => exists_congr fun sold =>
    exists_congr fun offer => and_congr_right fun hheld => ?_
  have hx : held.raw ≤ maxPooled :=
    (Fixed.ofInt_eq_ok_iff.mp hheld).trans_le R.mul_scale_le_maxPooled
  rw [h.soldAt_eq hx]

/-! ### Trades -/

theorem Same.demand_eq (h : p.Same q) (R a : Word) : p.demand R.val a.val = q.demand R.val a.val := by
  obtain ⟨held, hheld, hraw⟩ := R.exists_ofInt
  obtain ⟨after, hafter, hle⟩ := R.exists_ofInt_add a
  have hx : held.raw ≤ maxPooled := hraw ▸ R.mul_scale_le_maxPooled
  rw [PriceLine.demand, PriceLine.demand, hheld, hafter, ok_bind, ok_bind, h.soldAt_eq hx]
  refine bind_congr fun sold => ?_
  rw [ok_bind, ok_bind, h.soldAt_eq hle]

theorem Same.meet_eq (h : p.Same q) (hdemand : p.demand R.val a.val = .ok demand) (B : Word) :
    p.meet demand B.val a.val = q.meet demand B.val a.val := by
  obtain ⟨s, hs⟩ := exists_meet hdemand B
  obtain ⟨s', hs'⟩ := exists_meet ((h.demand_eq R a).symm.trans hdemand) B
  rw [hs, hs']
  rcases meet_eq_ok_iff.mp hs with ⟨hle, rfl⟩ | ⟨hlt, last, full, hlast, hfull, rfl⟩
  · rcases meet_eq_ok_iff.mp hs' with ⟨-, rfl⟩ | ⟨hlt', -⟩
    · rfl
    · exact absurd hle (Nat.not_le.mpr hlt')
  · rcases meet_eq_ok_iff.mp hs' with ⟨hle', -⟩ | ⟨-, last', full', hlast', hfull', rfl⟩
    · exact absurd hlt (Nat.not_lt.mpr hle')
    · obtain rfl : last = last' := Fixed.ext_raw (hlast.trans hlast'.symm)
      rw [h.collateral_unique hfull hfull']

theorem Same.sizeBuy_eq (h : p.Same q) (R B a : Word) :
    p.sizeBuy R.val B.val a.val = q.sizeBuy R.val B.val a.val := by
  rw [sizeBuy, sizeBuy, ← h.demand_eq]
  cases hdemand : p.demand R.val a.val with
  | error failure => rw [error_bind, error_bind]
  | ok demand => exact h.meet_eq hdemand B

theorem Same.sizing_unique (h : p.Same q) (hs : p.sizeSell R.val a.val = .ok s)
    (hs' : q.sizeSell R.val a.val = .ok s') : s = s' := by
  obtain ⟨held, sold, offer, kept, hheld, hsold, hoffer, hkept, hcase⟩ := sizeSell_eq_ok_iff.mp hs
  obtain ⟨held', sold', offer', kept', hheld', hsold', hoffer', hkept', hcase'⟩ :=
    sizeSell_eq_ok_iff.mp hs'
  obtain rfl : held = held' := Fixed.ext_raw (hheld.trans hheld'.symm)
  obtain rfl : offer = offer' := Fixed.ext_raw (hoffer.trans hoffer'.symm)
  obtain rfl := h.sold_unique hsold hsold'
  obtain rfl := h.collateral_unique hkept hkept'
  rcases hcase with ⟨hlt, rfl⟩ | ⟨hle, rfl⟩
  · rcases hcase' with ⟨-, rfl⟩ | ⟨hle', -⟩
    · rfl
    · exact absurd hle' (Nat.not_le.mpr hlt)
  · rcases hcase' with ⟨hlt', -⟩ | ⟨-, rfl⟩
    · exact absurd hle (Nat.not_le.mpr hlt')
    · rfl

theorem Same.sizeSell_eq (h : p.Same q) (R a : Word) :
    p.sizeSell R.val a.val = q.sizeSell R.val a.val := by
  apply eq_of_error_iff
  · intro failure
    rw [sizeSell_eq_error_iff, sizeSell_eq_error_iff, h.degenerate_iff, h.squareOverflows_iff]
  · intro s s' hs hs'
    exact h.sizing_unique hs hs'

theorem Same.swap_eq (h : p.Same q) (direction : Direction) (R B a : Word) :
    p.swap direction R.val B.val a.val = q.swap direction R.val B.val a.val := by
  rw [swap, swap]
  cases direction with
  | buy => rw [size, size, h.sizeBuy_eq]
  | sell => rw [size, size, h.sizeSell_eq]

end PriceLine

namespace Curve

variable {curve other : Curve}

theorem trade_eq_of_same (h : curve.line.Same other.line) (hfree : curve.fees.isFree = true)
    (hother : other.fees.isFree = true) (direction : Direction) (R B a floor : Word) :
    curve.trade direction R B a floor = other.trade direction R B a floor := by
  rw [trade, trade, Fees.requireFree, Fees.requireFree, if_pos hfree, if_pos hother, h.swap_eq]

theorem quote_eq_of_same (h : curve.line.Same other.line) (hfree : curve.fees.isFree = true)
    (hother : other.fees.isFree = true) (direction : Direction)
    (collateral bonded offered floor : ℤ) :
    curve.quote direction collateral bonded offered floor =
      other.quote direction collateral bonded offered floor := by
  rw [quote, quote, Fees.requireFree, Fees.requireFree, if_pos hfree, if_pos hother]
  refine bind_congr fun _ => bind_congr fun R => bind_congr fun B => bind_congr fun a =>
    bind_congr fun least => ?_
  exact trade_eq_of_same h hfree hother direction R B a least

theorem sold_eq_of_same (h : curve.line.Same other.line) (R : Word) : curve.sold R = other.sold R := by
  obtain ⟨held, hheld, hraw⟩ := R.exists_ofInt
  have hx : held.raw ≤ maxPooled := hraw ▸ R.mul_scale_le_maxPooled
  rw [sold, sold, hheld, ok_bind, ok_bind, h.soldAt_eq hx]

theorem spotPrice_eq_of_same (h : curve.line.Same other.line) (R : Word) :
    curve.spotPrice R = other.spotPrice R := by
  apply eq_of_error_iff
  · intro cause
    rw [spotPrice_eq_error_iff, spotPrice_eq_error_iff, h.degenerate_iff]
  · intro price price' hprice hprice'
    simp only [spotPrice, bind_eq_ok_iff, mapError_eq_ok_iff] at hprice hprice'
    obtain ⟨position, hposition, hp⟩ := hprice
    obtain ⟨position', hposition', hp'⟩ := hprice'
    rw [sold_eq_of_same h, hposition'] at hposition
    obtain rfl := Except.ok.inj hposition
    exact h.price_unique hp hp'

/-- Free curves on one line have one identity and answer every question alike, refusals included. -/
theorem answers_eq_of_same (h : curve.line.Same other.line) (hfree : curve.fees.isFree = true)
    (hother : other.fees.isFree = true) :
    curve.line.identity = other.line.identity ∧
    (∀ (direction : Direction) (collateral bonded offered floor : ℤ),
      curve.quote direction collateral bonded offered floor =
        other.quote direction collateral bonded offered floor) ∧
    ∀ R : Word, curve.sold R = other.sold R ∧ curve.spotPrice R = other.spotPrice R :=
  ⟨h.identity_eq, quote_eq_of_same h hfree hother, fun R => ⟨sold_eq_of_same h R, spotPrice_eq_of_same h R⟩⟩

theorem answers_eq_of_same_sample :
    Genesis.sample.curve.quote .buy 0 50000000000 240000000000 0 =
        Genesis.sampleReduced.curve.quote .buy 0 50000000000 240000000000 0 ∧
      Genesis.sample.curve.quote .buy 0 50000000000 240000000000 0 =
        .ok ⟨.buy, 240000000000, 4000000000, false⟩ ∧
      Genesis.sample.curve.spotPrice ⟨240000000000, by decide⟩ =
        Genesis.sampleReduced.curve.spotPrice ⟨240000000000, by decide⟩ := by
  have hsame : Genesis.sample.curve.line.Same Genesis.sampleReduced.curve.line := ⟨rfl, rfl⟩
  obtain ⟨-, hquote, hviews⟩ :=
    answers_eq_of_same hsame Genesis.sample.fees_free Genesis.sampleReduced.fees_free
  have hsample := hquote .buy 0 50000000000 240000000000 0
  exact ⟨hsample, hsample.trans (by decide +kernel), (hviews _).2⟩

end Curve

end BondingPool
