import BondingPool.Proofs.Accuracy
import BondingPool.Proofs.Quotable

/-!
# Trades against the price that is quoted

The price that a pool quotes is the exact one at its position, rounded down by less than two units. A trade starts
from the same position and moves along the line, so a buyer pays the price at the start and what it rises by, and
a seller is paid the price at the start less what it falls by. Neither can do better than the quote.
-/

namespace BondingPool

namespace PriceLine

variable {line : PriceLine} {R B a : ℕ} {f : Fill}

theorem swap_buy_price (h : line.swap .buy R B a = .ok f) :
    0 < f.received ∧ ∃ held sold : Fixed, held.raw = R * scale ∧ line.soldAt held .up = .ok sold ∧
      line.price sold.value * f.received + line.slope.value * f.received ^ 2 / 2 ≤ f.paid := by
  obtain ⟨-, -, -, hreceived, -, held, sold, hheld, hsold, hcover, hstand⟩ := swap_buy_position h
  refine ⟨hreceived, held, sold, hheld, hsold, ?_⟩
  rw [cost_add_eq_price] at hstand
  linarith

theorem swap_sell_price (h : line.swap .sell R B a = .ok f) :
    0 < f.paid ∧ ∃ held sold : Fixed, held.raw = R * scale ∧ line.soldAt held .up = .ok sold ∧
      (f.capped = false →
        f.received ≤ line.price sold.value * f.paid - line.slope.value * f.paid ^ 2 / 2) := by
  obtain ⟨-, hpaid, -, -, -, held, sold, hheld, hsold, hcover, hwhole, -⟩ := swap_sell_position h
  refine ⟨hpaid, held, sold, hheld, hsold, fun hcapped => ?_⟩
  obtain ⟨hcharge, -, hleft⟩ := hwhole hcapped
  rw [sub_eq_add_neg, cost_add_eq_price] at hleft
  rw [hcharge, Int.cast_natCast]
  linarith

end PriceLine

namespace Curve

variable {curve : Curve} {direction : Direction} {R B a floor : Word} {f : Fill} {b p : Fixed}

theorem spotPrice_eq_ok_iff :
    curve.spotPrice R = .ok p ↔
      ∃ b, curve.sold R = .ok b ∧ curve.line.priceAt b .down = .ok p := by
  rw [spotPrice, bind_eq_ok_iff]
  simp only [mapError_eq_ok_iff]

theorem spotPrice_bounds (hsold : curve.sold R = .ok b) (hp : curve.spotPrice R = .ok p) :
    p.value ≤ curve.line.price b.value ∧ curve.line.price b.value < p.value + 2 / scale := by
  obtain ⟨b', hsold', hprice⟩ := spotPrice_eq_ok_iff.mp hp
  obtain rfl := Except.ok.inj (hsold.symm.trans hsold')
  have hunder : p.value ≤ curve.line.price b.value := PriceLine.priceAt_toward hprice
  have hnear := (abs_lt.mp (PriceLine.abs_priceAt_sub_lt hprice)).1
  exact ⟨hunder, by linarith⟩

theorem exists_spotPrice_of_sold (h : curve.sold R = .ok b) : ∃ p, curve.spotPrice R = .ok p := by
  refine exists_spotPrice fun hdegenerate => ?_
  rw [sold_eq_error_iff.mpr ⟨rfl, hdegenerate⟩] at h
  cases h

theorem exists_spotPrice_of_soldAt {held : Fixed} (hheld : held.raw = R.val * scale)
    (h : curve.line.soldAt held .up = .ok b) :
    curve.sold R = .ok b ∧ ∃ p, curve.spotPrice R = .ok p := by
  have hsold := sold_eq_ok_iff.mpr ⟨held, hheld, h⟩
  exact ⟨hsold, exists_spotPrice_of_sold hsold⟩

theorem spotPrice_mul_le_of_price {n paid : ℤ} (hsold : curve.sold R = .ok b)
    (hp : curve.spotPrice R = .ok p) (hn : 0 ≤ n)
    (h : curve.line.price b.value * n + curve.line.slope.value * n ^ 2 / 2 ≤ paid) :
    p.raw * n ≤ paid * scale := by
  have hs := Fixed.scale_cast_pos
  obtain ⟨hunder, -⟩ := spotPrice_bounds hsold hp
  have hn' : (0 : ℚ) ≤ n := by exact_mod_cast hn
  have hquote := mul_le_mul_of_nonneg_right hunder hn'
  have hrise := curve.line.slope_mul_sq_nonneg n
  have hle : p.raw / scale * n ≤ (paid : ℚ) := by
    rw [← Fixed.value]
    linarith
  rw [div_mul_eq_mul_div, div_le_iff₀ hs] at hle
  exact_mod_cast hle

theorem received_mul_le_of_price {n received : ℤ} (hsold : curve.sold R = .ok b)
    (hp : curve.spotPrice R = .ok p) (hn : 0 ≤ n)
    (h : received ≤ curve.line.price b.value * n - curve.line.slope.value * n ^ 2 / 2) :
    received * scale ≤ (p.raw + 2) * n := by
  have hs := Fixed.scale_cast_pos
  obtain ⟨-, hnear⟩ := spotPrice_bounds hsold hp
  have hn' : (0 : ℚ) ≤ n := by exact_mod_cast hn
  have hquote := mul_le_mul_of_nonneg_right hnear.le hn'
  have hfall := curve.line.slope_mul_sq_nonneg n
  have hle : (received : ℚ) ≤ (p.raw + 2) / scale * n := by
    rw [add_div]
    change (received : ℚ) ≤ (p.value + 2 / scale) * n
    linarith
  rw [div_mul_eq_mul_div, le_div_iff₀ hs] at hle
  exact_mod_cast hle

/-- No trade beats the quote: what is bought is paid at the exact price or above, what is sold and not cut short
is paid at the exact price or below, and the quote is that price but for two units. -/
theorem trade_price_bounds (h : curve.trade direction R B a floor = .ok f) :
    ∃ b p, curve.sold R = .ok b ∧ curve.spotPrice R = .ok p ∧
      (direction = .buy →
        curve.line.price b.value * f.received + curve.line.slope.value * f.received ^ 2 / 2 ≤
            f.paid ∧
          p.raw * f.received ≤ f.paid * scale) ∧
      (direction = .sell → f.capped = false →
        f.received ≤
            curve.line.price b.value * f.paid - curve.line.slope.value * f.paid ^ 2 / 2 ∧
          f.received * scale ≤ (p.raw + 2) * f.paid) := by
  obtain ⟨-, -, hswap, -⟩ := trade_eq_ok_iff.mp h
  cases direction with
  | buy =>
    obtain ⟨hreceived, held, sold, hheld, hposition, hprice⟩ := PriceLine.swap_buy_price hswap
    obtain ⟨hsold, p, hp⟩ := exists_spotPrice_of_soldAt hheld hposition
    refine ⟨sold, p, hsold, hp, fun _ => ⟨hprice, ?_⟩, nofun⟩
    exact spotPrice_mul_le_of_price hsold hp hreceived.le hprice
  | sell =>
    obtain ⟨hpaid, held, sold, hheld, hposition, hprice⟩ := PriceLine.swap_sell_price hswap
    obtain ⟨hsold, p, hp⟩ := exists_spotPrice_of_soldAt hheld hposition
    refine ⟨sold, p, hsold, hp, nofun, fun _ hcapped => ⟨hprice hcapped, ?_⟩⟩
    exact received_mul_le_of_price hsold hp hpaid.le (hprice hcapped)

theorem trade_price_bounds_sample :
    Genesis.sample.curve.trade .buy ⟨240000000000, by decide⟩ Genesis.sample.supply
        ⟨1000, by decide⟩ .zero = .ok ⟨.buy, 1000, 14, false⟩ ∧
      Genesis.sample.curve.trade .sell ⟨240000000000, by decide⟩ Genesis.sample.supply
        ⟨13, by decide⟩ .zero = .ok ⟨.sell, 13, 909, false⟩ ∧
      ∃ p, Genesis.sample.curve.spotPrice ⟨240000000000, by decide⟩ = .ok p ∧
        p.raw = 70 * scale ∧ p.raw * (14 : ℤ) ≤ 1000 * scale ∧
          (909 : ℤ) * scale ≤ (p.raw + 2) * 13 := by
  have hbuy : Genesis.sample.curve.trade .buy ⟨240000000000, by decide⟩ Genesis.sample.supply
      ⟨1000, by decide⟩ .zero = .ok ⟨.buy, 1000, 14, false⟩ := by
    decide
  have hsell : Genesis.sample.curve.trade .sell ⟨240000000000, by decide⟩ Genesis.sample.supply
      ⟨13, by decide⟩ .zero = .ok ⟨.sell, 13, 909, false⟩ := by
    decide
  have hquote : Genesis.sample.curve.spotPrice ⟨240000000000, by decide⟩ =
      .ok ⟨70 * scale, by decide⟩ := by
    decide
  obtain ⟨_, p, -, hp, hbought, -⟩ := trade_price_bounds hbuy
  obtain ⟨_, p', -, hp', -, hsold⟩ := trade_price_bounds hsell
  obtain rfl := Except.ok.inj (hp.symm.trans hquote)
  obtain rfl := Except.ok.inj (hp'.symm.trans hquote)
  exact ⟨hbuy, hsell, _, hquote, rfl, (hbought rfl).2, (hsold rfl rfl).2⟩

end Curve

end BondingPool
