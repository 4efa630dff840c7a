import BondingPool.Proofs.Comparison
import BondingPool.Proofs.SpotPrice

/-!
# Selling back what was bought

A buyer who sells again at once gets back no more than was paid. On a line that starts at a price of one or more,
with a collateral that leaves the precision some room, little more than the price of one token is lost: the
fraction of a token that the buyer pays for and does not get, the fraction of a unit that the seller is not paid,
and what lies between the two positions of a collateral, before and after. A buyer who is cut short at the supply
pays for no fraction of a token, but may pay a fraction of a unit too much instead.
-/

namespace BondingPool

namespace PriceLine

variable {line : PriceLine} {R B a : ℕ} {x low high : Fixed} {f : Fill} {c y z : ℚ}

/-! ### Lines and collateral above precision -/

/-- The line starts at a price of one or more, and the collateral, which pays for one token at least, leaves two
digits of the precision unused. -/
structure Moderate (line : PriceLine) (collateral : ℚ) : Prop where
  start : line.base.den.val ≤ line.base.num.val
  token : line.cost 1 ≤ collateral
  within : collateral ≤ 10 ^ 16

namespace Moderate

theorem one_le_base (h : line.Moderate c) : 1 ≤ line.base.value := by
  have hden : (0 : ℚ) < line.base.den.val := by exact_mod_cast line.base.den_pos
  rw [Ratio.value, one_le_div hden]
  exact_mod_cast h.start

theorem one_le_price (h : line.Moderate c) (hy : 0 ≤ y) : 1 ≤ line.price y := by
  have hrise := mul_nonneg line.slope.value_nonneg hy
  have hbase := h.one_le_base
  rw [price]
  linarith

theorem le_cost (h : line.Moderate c) (hy : 0 ≤ y) : y ≤ line.cost y := by
  have hs := line.slope.value_nonneg
  have hbase := mul_le_mul_of_nonneg_right h.one_le_base hy
  have hsquare : 0 ≤ line.slope.value / 2 * (y * y) := by positivity
  rw [cost_eq]
  linarith

theorem slope_le (h : line.Moderate c) : line.slope.value ≤ 2 * c := by
  have htoken := h.token
  have hb := line.base.value_nonneg
  rw [cost_eq] at htoken
  linarith

theorem price_le (h : line.Moderate c) (hy : line.cost y ≤ c) : line.price y ≤ 2 * c := by
  have hmean (z : ℚ) (hz : 1 ≤ z) (hcost : line.cost z ≤ c) : line.price z ≤ 2 * c := by
    -- the first tokens cost the mean of two prices each, of which one is this price
    have hstart := line.price_nonneg le_rfl
    have hend := line.price_nonneg (zero_le_one.trans hz)
    have htokens := mul_le_mul_of_nonneg_right hz (add_nonneg hstart hend)
    rw [cost_eq_mul] at hcost
    linarith
  rcases le_total y 1 with hle | hge
  · exact (line.price_le_price hle).trans (hmean 1 le_rfl h.token)
  · exact hmean y hge hy

theorem rounding_le (h : line.Moderate c) : (line.slope.value / 2 + 2) / scale ≤ 1 / 64 := by
  have hscale : (scale : ℚ) = 10 ^ 18 := by norm_num [scale]
  have hslope := h.slope_le
  have hwithin := h.within
  rw [hscale, div_le_iff₀ (by norm_num)]
  linarith

theorem gap_mul_price_le (h : line.Moderate c) (hx : x.value ≤ c)
    (hlow : line.soldAt x .down = .ok low) (hhigh : line.soldAt x .up = .ok high) :
    (high.value - low.value) * line.price high.value ≤ 1 / 8 := by
  have hscale : (scale : ℚ) = 10 ^ 18 := by norm_num [scale]
  have hunder : line.cost low.value ≤ x.value := soldAt_toward hlow
  have hreach := (h.le_cost low.value_nonneg).trans hunder
  have hprice := h.price_le (hunder.trans hx)
  have hslope := h.slope_le
  have hwithin := h.within
  have hgap := gap_lt h.start hlow hhigh
  have hrise := slope_mul_gap_le h.start hlow hhigh
  have hend : line.price high.value =
      line.price low.value + line.slope.value * (high.value - low.value) := by
    rw [price, price]
    ring
  have hworth := PriceLine.gap_mul_price_le h.start hlow hhigh
  rw [hscale] at hgap hrise hworth
  linarith

theorem cost_sold_le (h : line.Moderate c) (hx : x.value ≤ c) (hraw : x.raw ≤ maxPooled)
    (hhigh : line.soldAt x .up = .ok high) : line.cost high.value ≤ x.value + 1 / 8 := by
  obtain ⟨low, hlow⟩ := line.exists_reach hraw
  have hunder : line.cost low.value ≤ x.value := soldAt_toward hlow
  have hgap := h.gap_mul_price_le hx hlow hhigh
  have hrise := line.cost_sub_le low.value high.value
  linarith

end Moderate

/-! ### Back from the position of the collateral that was paid in -/

section Buy

variable {R R' B a : Word} {after sold : Fixed} {demand : Demand} {price : ℕ}

theorem exists_reach_of_demand (h : line.demand R.val a.val = .ok demand) (hwanted : 0 < demand.wanted)
    (hafter : after.raw = (R.val + a.val) * scale) :
    ∃ reach, line.soldAt after .down = .ok reach ∧
      demand.sold.value + demand.wanted ≤ reach.value ∧
      reach.value < demand.sold.value + demand.wanted + 1 := by
  obtain ⟨after', reach, -, hafter', -, hreach, hcount⟩ := demand_eq_ok_iff.mp h
  obtain rfl : after' = after := Fixed.ext_raw (hafter'.trans hafter.symm)
  have hstop : demand.sold.value + demand.wanted ≤ reach.value :=
    Fixed.value_add_natCast_le_iff.mpr ((Fixed.le_toInteger_excess_iff hwanted).mp hcount.le)
  have hordered : demand.sold ≤ reach := by
    have hcast : (0 : ℚ) ≤ demand.wanted := Nat.cast_nonneg _
    exact Fixed.value_le_value_iff.mp (by linarith)
  have hwhole := (abs_lt.mp ((reach.excess demand.sold).abs_toInteger_sub_lt .down)).1
  rw [← hcount, Fixed.value_excess hordered] at hwhole
  exact ⟨reach, hreach, hstop, by linarith⟩

theorem Moderate.cost_left_of_demand (h : line.Moderate after.value)
    (hdemand : line.demand R.val a.val = .ok demand) (hwanted : 0 < demand.wanted)
    (hafter : after.raw = (R.val + a.val) * scale) (hsold : line.soldAt after .up = .ok sold) :
    line.cost (sold.value - demand.wanted) ≤ R.val + line.price sold.value + 1 / 4 := by
  obtain ⟨-, -, hheld, -, hbefore, -⟩ := demand_eq_ok_iff.mp hdemand
  obtain ⟨reach, hreach, hstop, hfraction⟩ := exists_reach_of_demand hdemand hwanted hafter
  have hvalue := Fixed.value_natCast hheld
  have hle : demand.held.value ≤ after.value := by
    rw [hvalue, Fixed.value_natCast hafter]
    exact_mod_cast Nat.le_add_right _ _
  have hstart := h.cost_sold_le hle (hheld ▸ R.mul_scale_le_maxPooled) hbefore
  have hgap := h.gap_mul_price_le le_rfl hreach hsold
  have hordered := Fixed.value_le_value_iff.mpr (soldAt_down_le_up hreach hsold (Nat.le_refl _))
  have hcast : (0 : ℚ) ≤ demand.wanted := Nat.cast_nonneg _
  have hprice := line.price_nonneg sold.value_nonneg
  -- past the position before the buy lie less than one token and the gap, at most at the last price
  calc line.cost (sold.value - demand.wanted)
      ≤ line.cost demand.sold.value +
          (sold.value - demand.wanted - demand.sold.value) * line.price sold.value :=
        line.cost_le_add_mul_price (by linarith) (by linarith)
    _ ≤ line.cost demand.sold.value + (sold.value - reach.value + 1) * line.price sold.value := by
        gcongr
        linarith
    _ ≤ R.val + line.price sold.value + 1 / 4 := by linarith

theorem Moderate.cost_left_of_supply (h : line.Moderate after.value)
    (hprice : line.supplyPrice R B = .ok price) (hafter : after.raw = (R.val + price) * scale)
    (hle : (R.val + price) * scale ≤ maxPooled) (hsold : line.soldAt after .up = .ok sold) :
    line.cost (sold.value - B.val) ≤ R.val + 1 + 1 / 4 + 1 / 64 := by
  obtain ⟨held, before, last, full, hheld, hbefore, hlast, hfull, hcovers, rfl⟩ :=
    supplyPrice_eq_ok_iff.mp hprice
  have hvalue := Fixed.value_natCast hheld
  have hafter' := Fixed.value_natCast hafter
  rw [Nat.cast_add] at hafter'
  have hnonneg : (0 : ℚ) ≤ ((full.excess held).toInteger .up : ℕ) := Nat.cast_nonneg _
  have hstart := h.cost_sold_le (by linarith) (hheld ▸ R.mul_scale_le_maxPooled) hbefore
  have hend := h.cost_sold_le le_rfl (hafter ▸ hle) hsold
  have hcover : after.value ≤ line.cost sold.value := soldAt_toward hsold
  have hlast' := Fixed.value_add_natCast hlast
  have hcost : line.cost last.value ≤ full.value := collateralAt_toward hfull
  have hnear := (abs_lt.mp (abs_collateralAt_sub_lt hfull)).2
  have hrounding := h.rounding_le
  have hunit := (abs_lt.mp ((full.excess held).abs_toInteger_sub_lt .up)).2
  have hceil := (full.excess held).value_le_toInteger_up
  rw [Fixed.value_excess hcovers] at hunit hceil
  have hstays : before.value + B.val ≤ sold.value := by
    rw [← hlast']
    exact line.le_of_cost_le_cost sold.value_nonneg (by linarith)
  -- what lies past the position before the buy would cost no less at the end of the supply
  have hshift := line.cost_sub_le_shifted (le_sub_iff_add_le.mpr hstays) B.val.cast_nonneg
  rw [sub_add_cancel, ← hlast'] at hshift
  linarith

theorem Moderate.cost_left_of_buy (h : line.Moderate after.value)
    (hbuy : line.swap .buy R.val B.val a.val = .ok f) (hafter : after.raw = R'.val * scale)
    (hR' : (R'.val : ℤ) = R.val + f.paid) (hsold : line.soldAt after .up = .ok sold) :
    line.cost (sold.value - f.received) ≤ R.val + line.price sold.value + 1 / 4 + 1 / 64 := by
  obtain ⟨ha, -⟩ := swap_buy_received hbuy
  obtain ⟨demand, hdemand, ⟨hwanted, -, rfl⟩ | ⟨-, -, price, hprice, -, -, rfl⟩⟩ :=
    (swap_buy_eq_ok_iff ha).mp hbuy
  · dsimp only at hR'
    have hsum : R'.val = R.val + a.val := by exact_mod_cast hR'
    have hleft := h.cost_left_of_demand hdemand hwanted (hsum ▸ hafter) hsold
    push_cast
    linarith
  · dsimp only at hR'
    have hsum : R'.val = R.val + price := by exact_mod_cast hR'
    have hleft := h.cost_left_of_supply hprice (hsum ▸ hafter)
      (hsum ▸ R'.mul_scale_le_maxPooled) hsold
    have hone := h.one_le_price sold.value_nonneg
    push_cast
    linarith

end Buy

/-! ### Both ways -/

theorem left_lt_of_sell {R B a : ℕ} (h : line.swap .sell R B a = .ok f)
    (hcapped : f.capped = false) :
    ∃ held sold : Fixed, held.raw = R * scale ∧ line.soldAt held .up = .ok sold ∧
      R - f.received < line.cost (sold.value - a) + (line.slope.value / 2 + 2) / scale + 1 := by
  obtain ⟨held, sold, offer, kept, hheld, hsold, hoffer, hkept, -, hreceived, rfl⟩ :=
    swap_sell_eq_ok_iff.mp h
  refine ⟨held, sold, hheld, hsold, ?_⟩
  have hwithin : offer ≤ sold := Fixed.not_lt_iff.mp (of_decide_eq_false hcapped)
  have hnear := (abs_lt.mp (abs_collateralAt_sub_lt hkept)).2
  rw [Fixed.value_excess hwithin, Fixed.value_natCast hoffer] at hnear
  have hpays : kept ≤ held :=
    (Nat.le_add_right _ _).trans ((Fixed.le_toInteger_excess_iff hreceived).mp le_rfl)
  have hunit := (abs_lt.mp ((held.excess kept).abs_toInteger_sub_lt .down)).1
  rw [Fixed.value_excess hpays, Fixed.value_natCast hheld] at hunit
  push_cast
  linarith

section RoundTrip

variable {R R' B B' a out : Word} {f' : Fill}

theorem sell_of_bought (hbuy : line.swap .buy R.val B.val a.val = .ok f)
    (hR' : (R'.val : ℤ) = R.val + f.paid) (hout : (out.val : ℤ) = f.received)
    (hsell : line.swap .sell R'.val B'.val out.val = .ok f') :
    f'.capped = false ∧ line.cost 1 ≤ R'.val ∧ R.val + f'.received ≤ R'.val := by
  obtain ⟨-, -, -, hreceived, -, y, hy, hcover, hstand⟩ := swap_buy_bounds hbuy
  rw [← hout] at hreceived hstand
  push_cast at hstand
  have hR : (R'.val : ℚ) = R.val + f.paid := by exact_mod_cast congrArg (Int.cast (R := ℚ)) hR'
  rw [← hR] at hstand
  have hone : (1 : ℚ) ≤ out.val := by exact_mod_cast hreceived
  have htoken := (line.cost_le_cost zero_le_one (by linarith)).trans hstand
  obtain ⟨hcapped, hpaid⟩ := Covers.not_capped hsell (Or.inr hstand) (le_add_of_nonneg_left hy)
  have hwithin : (f'.paid : ℚ) ≤ y + out.val := by
    rw [hpaid]
    push_cast
    linarith
  have hleft := cost_left_le_of_not_capped hsell hcapped hwithin hstand
  rw [hpaid, Int.cast_natCast, add_sub_cancel_right] at hleft
  refine ⟨hcapped, htoken, ?_⟩
  have hkeeps : (R.val : ℚ) + f'.received ≤ R'.val := by linarith
  exact_mod_cast hkeeps

theorem round_trip_lt (hstart : line.base.den.val ≤ line.base.num.val)
    (hsmall : R.val + a.val ≤ 10 ^ 16) (hbuy : line.swap .buy R.val B.val a.val = .ok f)
    (hR' : (R'.val : ℤ) = R.val + f.paid) (hout : (out.val : ℤ) = f.received)
    (hsell : line.swap .sell R'.val B'.val out.val = .ok f') :
    ∃ held sold : Fixed, held.raw = R'.val * scale ∧ line.soldAt held .up = .ok sold ∧
      (R'.val : ℚ) - f'.received - R.val < line.price sold.value + 3 / 2 := by
  obtain ⟨-, -, hle, -⟩ := swap_buy_bounds hbuy
  obtain ⟨hcapped, htoken, -⟩ := sell_of_bought hbuy hR' hout hsell
  obtain ⟨held, sold, hheld, hsold, hleft⟩ := left_lt_of_sell hsell hcapped
  have hvalue := Fixed.value_natCast hheld
  have hwithin : (R'.val : ℚ) ≤ 10 ^ 16 := by
    have hsum : R'.val ≤ 10 ^ 16 := by omega
    exact_mod_cast hsum
  have hmoderate : line.Moderate held.value := by
    rw [hvalue]
    exact ⟨hstart, htoken, hwithin⟩
  have hback := hmoderate.cost_left_of_buy hbuy hheld hR' hsold
  have hrounding := hmoderate.rounding_le
  rw [← hout, Int.cast_natCast] at hback
  exact ⟨held, sold, hheld, hsold, by linarith⟩

end RoundTrip

end PriceLine

namespace Curve

variable {curve : Curve} {R R' B B' a out floor floor' : Word} {f f' : Fill}

/-- A buy that is sold back at once is taken back whole, gains nothing and loses at most the price that is then
quoted, rounded up, and two units. -/
theorem round_trip_cost (hstart : curve.line.base.den.val ≤ curve.line.base.num.val)
    (hsmall : R.val + a.val ≤ 10 ^ 16) (hbuy : curve.trade .buy R B a floor = .ok f)
    (hR' : (R'.val : ℤ) = R.val + f.paid) (hout : (out.val : ℤ) = f.received)
    (hsell : curve.trade .sell R' B' out floor' = .ok f') :
    f'.capped = false ∧ ∃ p, curve.spotPrice R' = .ok p ∧
      0 ≤ (R'.val : ℤ) - f'.received - R.val ∧
      (R'.val : ℤ) - f'.received - R.val ≤ p.toInteger .up + 2 := by
  obtain ⟨-, -, hbought, -⟩ := trade_eq_ok_iff.mp hbuy
  obtain ⟨-, -, hback, -⟩ := trade_eq_ok_iff.mp hsell
  obtain ⟨hcapped, -, hkeeps⟩ := PriceLine.sell_of_bought hbought hR' hout hback
  obtain ⟨held, sold, hheld, hposition, hlost⟩ :=
    PriceLine.round_trip_lt hstart hsmall hbought hR' hout hback
  obtain ⟨hsold, p, hp⟩ := exists_spotPrice_of_soldAt hheld hposition
  obtain ⟨-, hnear⟩ := spotPrice_bounds hsold hp
  have hceil := p.value_le_toInteger_up
  have hunits : (2 : ℚ) / scale ≤ 1 / 2 := by norm_num [scale]
  refine ⟨hcapped, p, hp, by linarith, ?_⟩
  have hle : (R'.val : ℚ) - f'.received - R.val ≤ p.toInteger .up + 2 := by linarith
  exact_mod_cast hle

theorem round_trip_cost_sample :
    Genesis.sample.curve.line.base.den.val ≤ Genesis.sample.curve.line.base.num.val ∧
      240000000000 + 1050 ≤ 10 ^ 16 ∧
      Genesis.sample.curve.trade .buy ⟨240000000000, by decide⟩ Genesis.sample.supply
        ⟨1050, by decide⟩ .zero = .ok ⟨.buy, 1050, 14, false⟩ ∧
      Genesis.sample.curve.trade .sell ⟨240000001050, by decide⟩ ⟨49999999986, by decide⟩
        ⟨14, by decide⟩ .zero = .ok ⟨.sell, 14, 980, false⟩ ∧
      ∃ p, Genesis.sample.curve.spotPrice ⟨240000001050, by decide⟩ = .ok p ∧
        (240000001050 : ℤ) - 980 - 240000000000 ≤ p.toInteger .up + 2 := by
  have hstart :
      Genesis.sample.curve.line.base.den.val ≤ Genesis.sample.curve.line.base.num.val := by
    decide
  have hsmall : 240000000000 + 1050 ≤ 10 ^ 16 := by decide
  have hbuy : Genesis.sample.curve.trade .buy ⟨240000000000, by decide⟩ Genesis.sample.supply
      ⟨1050, by decide⟩ .zero = .ok ⟨.buy, 1050, 14, false⟩ := by
    decide
  have hsell : Genesis.sample.curve.trade .sell ⟨240000001050, by decide⟩
      ⟨49999999986, by decide⟩ ⟨14, by decide⟩ .zero = .ok ⟨.sell, 14, 980, false⟩ := by
    decide
  obtain ⟨-, p, hp, -, hlost⟩ := round_trip_cost hstart hsmall hbuy (by decide) (by decide) hsell
  exact ⟨hstart, hsmall, hbuy, hsell, p, hp, hlost⟩

end Curve

end BondingPool
