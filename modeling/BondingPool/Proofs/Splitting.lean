import BondingPool.Proofs.Oversized
import BondingPool.Proofs.Quotable

/-!
# Orders in one piece and in two

An order that is placed in two pieces gives no more and costs no less than the same order in one. Rounding is
paid for at every trade: the second piece starts from a position recovered anew, which is never below the one
that the first piece moved to, while the whole order goes on from there. A cap cannot turn this around, since a
first piece that is capped empties its side of the pool and leaves nothing to the second.
-/

namespace BondingPool

namespace PriceLine

variable {line : PriceLine} {f₁ f₂ : Fill}

/-! ### Buys -/

section Buy

variable {R R' B B' a₁ a₂ a : Word} {d₁ d₂ : Demand}

theorem exists_demand_add (h₁ : line.demand R.val a₁.val = .ok d₁)
    (h₂ : line.demand R'.val a₂.val = .ok d₂) (hR : R'.val = R.val + a₁.val)
    (ha : a.val = a₁.val + a₂.val) (hpos₁ : 0 < d₁.wanted) (hpos₂ : 0 < d₂.wanted) :
    d₁.sold.raw + d₁.wanted * scale ≤ d₂.sold.raw ∧
      ∃ d, line.demand R.val a.val = .ok d ∧ d₁.wanted + d₂.wanted ≤ d.wanted := by
  obtain ⟨after₁, reach₁, hheld₁, hafter₁, hsold₁, hreach₁, hwanted₁⟩ := demand_eq_ok_iff.mp h₁
  obtain ⟨after₂, reach₂, hheld₂, hafter₂, hsold₂, hreach₂, hwanted₂⟩ := demand_eq_ok_iff.mp h₂
  have hsame : after₁ = d₂.held := Fixed.ext_raw (by rw [hafter₁, hheld₂, hR])
  -- both pieces reach for the position of the whole order, the second from further on
  have hbetween : reach₁ ≤ d₂.sold := soldAt_down_le_up hreach₁ hsold₂ (hsame ▸ Nat.le_refl _)
  have hfirst := (Fixed.le_toInteger_excess_iff hpos₁).mp hwanted₁.le
  have hmoved := hfirst.trans (Fixed.le_iff_raw.mp hbetween)
  refine ⟨hmoved, ⟨d₁.held, d₁.sold, (reach₂.excess d₁.sold).toInteger .down⟩, ?_, ?_⟩
  · refine demand_eq_ok_iff.mpr ⟨after₂, reach₂, hheld₁, ?_, hsold₁, hreach₂, rfl⟩
    rw [hafter₂, hR, ha, Nat.add_assoc]
  · exact Fixed.add_le_toInteger_excess hpos₂ hwanted₂.le (Nat.add_le_add_right hmoved _)

theorem supplyPrice_le_add {p w price rest : ℕ} (h₁ : line.demand R.val a₁.val = .ok d₁)
    (h₂ : line.demand R'.val a₂.val = .ok d₂) (hR : R'.val = R.val + p) (hB : B.val = B'.val + w)
    (hmoved : d₁.sold.raw + w * scale ≤ d₂.sold.raw) (hprice : line.supplyPrice R B = .ok price)
    (hrest : line.supplyPrice R' B' = .ok rest) : price ≤ p + rest := by
  obtain ⟨-, -, hheld₁, -, hsold₁, -⟩ := demand_eq_ok_iff.mp h₁
  obtain ⟨-, -, hheld₂, -, hsold₂, -⟩ := demand_eq_ok_iff.mp h₂
  obtain ⟨held, sold, last, full, hheld, hsold, hlast, hfull, -, rfl⟩ :=
    supplyPrice_eq_ok_iff.mp hprice
  obtain ⟨held', sold', last', full', hheld', hsold', hlast', hfull', -, rfl⟩ :=
    supplyPrice_eq_ok_iff.mp hrest
  obtain rfl : held = d₁.held := Fixed.ext_raw (hheld.trans hheld₁.symm)
  obtain rfl : held' = d₂.held := Fixed.ext_raw (hheld'.trans hheld₂.symm)
  obtain rfl := Except.ok.inj (hsold.symm.trans hsold₁)
  obtain rfl := Except.ok.inj (hsold'.symm.trans hsold₂)
  have hle : last ≤ last' := by
    rw [Fixed.le_iff_raw, hlast, hlast', hB, Nat.add_mul]
    omega
  obtain ⟨part, hpart, hcheaper⟩ := exists_collateralAt_of_le hfull' hle
  obtain rfl := Except.ok.inj (hfull.symm.trans hpart)
  have hceil := Fixed.toInteger_excess_le_iff.mp (le_refl ((full'.excess d₂.held).toInteger .up))
  have hraw := Fixed.le_iff_raw.mp hcheaper
  apply Fixed.toInteger_excess_le_iff.mpr
  rw [hheld₂, hR, Nat.add_mul] at hceil
  rw [hheld₁, Nat.add_mul]
  omega

theorem exists_swap_buy_add (h₁ : line.swap .buy R.val B.val a₁.val = .ok f₁)
    (h₂ : line.swap .buy R'.val B'.val a₂.val = .ok f₂) (hR : (R'.val : ℤ) = R.val + f₁.paid)
    (hB : (B'.val : ℤ) = B.val - f₁.received) (ha : a.val = a₁.val + a₂.val) :
    ∃ f, line.swap .buy R.val B.val a.val = .ok f ∧
      f₁.received + f₂.received ≤ f.received ∧ f.paid ≤ f₁.paid + f₂.paid := by
  obtain ⟨-, hpaid₁, hle₁, -⟩ := swap_buy_bounds h₁
  obtain ⟨-, hpaid₂, hle₂, hreceived₂, hsupply₂, -⟩ := swap_buy_bounds h₂
  have ha₁ : 0 < a₁.val := by omega
  obtain ⟨d₁, hd₁, ⟨hpos₁, hwhole₁, rfl⟩ | ⟨-, -, price₁, -, -, -, rfl⟩⟩ :=
    (swap_buy_eq_ok_iff ha₁).mp h₁
  swap
  · -- The first piece took the whole supply.
    dsimp only at hB
    omega
  dsimp only at hR hB
  have hR' : R'.val = R.val + a₁.val := by omega
  have hB' : B.val = B'.val + d₁.wanted := by omega
  obtain ⟨d₂, hd₂, hcase₂⟩ := (swap_buy_eq_ok_iff (by omega)).mp h₂
  have hpos₂ : 0 < d₂.wanted := by
    rcases hcase₂ with ⟨hpos, -⟩ | ⟨hpos, hlt, -⟩
    · exact hpos
    · exact hpos.trans hlt
  obtain ⟨hmoved, d, hd, hwanted⟩ := exists_demand_add hd₁ hd₂ hR' ha hpos₁ hpos₂
  obtain ⟨f, hswap, hreceived, hoffered, hcapped⟩ :=
    exists_swap_buy (B := B) (by omega) (by omega) hd (by omega)
  refine ⟨f, hswap, ?_⟩
  rcases hcase₂ with ⟨-, hwhole₂, rfl⟩ | ⟨-, hlt₂, price₂, hprice₂, -, -, rfl⟩
  · dsimp only
    omega
  · obtain ⟨price, hprice, hcharge⟩ := hcapped (by omega)
    have hle := supplyPrice_le_add hd₁ hd₂ hR' hB' hmoved hprice hprice₂
    dsimp only
    omega

end Buy

/-! ### Sells -/

section Sell

variable {R R' B B' a₁ a₂ a : ℕ}

theorem left_le_sold {held held' sold sold' offer kept : Fixed} {n : ℕ}
    (hkept : line.collateralAt (sold.excess offer) .up = .ok kept)
    (hn : n = (held.excess kept).toInteger .down) (hpos : 0 < n)
    (hheld' : held'.raw + n * scale = held.raw) (hsold' : line.soldAt held' .up = .ok sold') :
    sold.excess offer ≤ sold' := by
  have hcost : line.cost (sold.excess offer).value ≤ kept.value := collateralAt_toward hkept
  have hcover : held'.value ≤ line.cost sold'.value := soldAt_toward hsold'
  have hleft : kept ≤ held' := by
    have hfloor := (Fixed.le_toInteger_excess_iff hpos).mp hn.le
    rw [Fixed.le_iff_raw]
    omega
  have hvalue := Fixed.value_le_value_iff.mpr hleft
  apply Fixed.value_le_value_iff.mp
  exact line.le_of_cost_le_cost sold'.value_nonneg (by linarith)

theorem exists_swap_sell_add (hfits : a * scale ≤ maxRaw)
    (h₁ : line.swap .sell R B a₁ = .ok f₁) (h₂ : line.swap .sell R' B' a₂ = .ok f₂)
    (hR : (R' : ℤ) = R - f₁.received) (ha : a = a₁ + a₂) :
    ∃ f, line.swap .sell R B a = .ok f ∧
      f₁.received + f₂.received ≤ f.received ∧ f.paid ≤ f₁.paid + f₂.paid := by
  obtain ⟨-, -, -, hreceived₂, hle₂, -⟩ := swap_sell_bounds h₂
  have hcapped₁ : f₁.capped = false := by
    cases hcapped : f₁.capped with
    | false => rfl
    | true =>
      -- A first piece past the position took the whole collateral.
      obtain ⟨-, -, -, hall, -⟩ := capped_sell_eq h₁ hcapped
      omega
  obtain ⟨held₁, sold₁, offer₁, kept₁, hheld₁, hsold₁, hoffer₁, hkept₁, hcharge₁, hout₁, rfl⟩ :=
    swap_sell_eq_ok_iff.mp h₁
  obtain ⟨held₂, sold₂, offer₂, kept₂, hheld₂, hsold₂, hoffer₂, hkept₂, hcharge₂, hout₂, rfl⟩ :=
    swap_sell_eq_ok_iff.mp h₂
  dsimp only at hR hcapped₁
  have hwithin : offer₁ ≤ sold₁ := Fixed.not_lt_iff.mp (of_decide_eq_false hcapped₁)
  set n₁ := (held₁.excess kept₁).toInteger .down with hn₁
  set n₂ := (held₂.excess kept₂).toInteger .down with hn₂
  have hheld : held₂.raw + n₁ * scale = held₁.raw := by
    rw [hheld₂, hheld₁, ← Nat.add_mul]
    congr 1
    omega
  have hwhole₁ : a₁ ≤ sold₁.toInteger .down := (Fixed.le_toInteger_down_iff hoffer₁).mpr hwithin
  have hleft := Fixed.le_iff_raw.mp (left_le_sold hkept₁ hn₁ hout₁ hheld hsold₂)
  rw [Fixed.le_iff_raw] at hwithin
  rw [Fixed.raw_excess] at hleft
  have hoffer : a * scale = offer₁.raw + offer₂.raw := by rw [hoffer₁, hoffer₂, ha, Nat.add_mul]
  -- The whole order ends no further up than the second piece does.
  have hend : sold₁.excess ⟨a * scale, hfits⟩ ≤ sold₂.excess offer₂ := by
    rw [Fixed.le_iff_raw, Fixed.raw_excess, Fixed.raw_excess]
    dsimp only
    omega
  obtain ⟨kept, hkept, hless⟩ := exists_collateralAt_of_le hkept₂ hend
  have hout : n₁ + n₂ ≤ (held₁.excess kept).toInteger .down := by
    have hraw := Fixed.le_iff_raw.mp hless
    exact Fixed.add_le_toInteger_excess hout₂ hn₂.le (by omega)
  have hposition : sold₁.toInteger .down ≤ sold₂.toInteger .down + a₁ :=
    Fixed.toInteger_down_le_add (by omega)
  refine ⟨_, swap_sell_eq_ok_iff.mpr ⟨held₁, sold₁, ⟨a * scale, hfits⟩, kept, hheld₁, hsold₁, rfl,
    hkept, by omega, by omega, rfl⟩, ?_, ?_⟩
  · dsimp only
    omega
  · dsimp only
    omega

end Sell

end PriceLine

namespace Pool

variable {pool mid last : Pool} {direction : Direction} {f₁ f₂ : Fill}

theorem exists_trade_of_swap {offered floor : Word} {fill : Fill}
    (hfree : pool.curve.fees.isFree = true) (hpos : 0 < offered.val)
    (hswap : pool.curve.line.swap direction pool.collateral.val pool.bonded.val offered.val =
      .ok fill)
    (hfloor : floor.val ≤ fill.received) (hsettle : ∃ next, pool.settle fill = .ok next) :
    ∃ next, pool.trade direction offered.val floor.val = .ok (fill, next) := by
  obtain ⟨next, hnext⟩ := hsettle
  refine ⟨next, trade_eq_ok_iff.mpr ⟨Curve.quote_eq_ok_iff.mpr ?_, hnext⟩⟩
  exact ⟨offered, floor, rfl, rfl, Curve.trade_eq_ok_iff.mpr ⟨hfree, hpos.ne', hswap, hfloor⟩⟩

theorem exists_fill_add (t₁ t₂ : Trade) {a : Word} (h₁ : t₁.Leaves t₂.before)
    (h₂ : t₂.Leaves last) (hd₁ : t₁.offer.direction = direction)
    (hd₂ : t₂.offer.direction = direction) (ha : t₁.offer.amount + t₂.offer.amount = a.val) :
    ∃ f, t₁.before.curve.line.swap direction t₁.before.collateral.val t₁.before.bonded.val a.val =
        .ok f ∧
      t₁.fill.received + t₂.fill.received ≤ f.received ∧ f.paid ≤ t₁.fill.paid + t₂.fill.paid ∧
      ∃ next, t₁.before.settle f = .ok next := by
  obtain ⟨hcurve, -⟩ := h₁.swap
  have hword := last.collateral.val_le
  have hword' := last.bonded.val_le
  cases direction with
  | buy =>
    obtain ⟨a₁, ha₁, hswap₁, hR, hB⟩ := h₁.buy hd₁
    obtain ⟨a₂, ha₂, hswap₂, hR', -⟩ := h₂.buy hd₂
    rw [hcurve] at hswap₂
    obtain ⟨f, hswap, hreceived, hpaid⟩ :=
      PriceLine.exists_swap_buy_add hswap₁ hswap₂ hR hB (a := a) (by omega)
    exact ⟨f, hswap, hreceived, hpaid, exists_settle_of_buy hswap (by omega)⟩
  | sell =>
    obtain ⟨a₁, ha₁, hswap₁, hR, hB⟩ := h₁.sell hd₁
    obtain ⟨a₂, ha₂, hswap₂, -, hB'⟩ := h₂.sell hd₂
    rw [hcurve] at hswap₂
    obtain ⟨f, hswap, hreceived, hpaid⟩ :=
      PriceLine.exists_swap_sell_add a.mul_scale_le hswap₁ hswap₂ hR (by omega)
    exact ⟨f, hswap, hreceived, hpaid, exists_settle_of_sell hswap (by omega)⟩

/-- An order whose two pieces are accepted one after the other is accepted whole; it brings no less than the
pieces and is charged no more. -/
theorem trade_add {a₁ a₂ floor₁ floor₂ : ℤ} {floor : Word}
    (h₁ : pool.trade direction a₁ floor₁ = .ok (f₁, mid))
    (h₂ : mid.trade direction a₂ floor₂ = .ok (f₂, last)) (hsum : a₁ + a₂ ≤ maxWord)
    (hfloor : floor.val ≤ f₁.received + f₂.received) :
    ∃ f next, pool.trade direction (a₁ + a₂) floor.val = .ok (f, next) ∧
      f₁.received + f₂.received ≤ f.received ∧ f.paid ≤ f₁.paid + f₂.paid := by
  obtain ⟨hquote₁, -⟩ := trade_eq_ok_iff.mp h₁
  obtain ⟨hquote₂, -⟩ := trade_eq_ok_iff.mp h₂
  obtain ⟨o₁, _, rfl, -, htrade₁⟩ := Curve.quote_eq_ok_iff.mp hquote₁
  obtain ⟨o₂, _, rfl, -, -⟩ := Curve.quote_eq_ok_iff.mp hquote₂
  obtain ⟨hfree, hpos, -, -⟩ := Curve.trade_eq_ok_iff.mp htrade₁
  have hfits : o₁.val + o₂.val ≤ maxWord := by exact_mod_cast hsum
  obtain ⟨f, hswap, hreceived, hpaid, hsettle⟩ :=
    exists_fill_add ⟨pool, ⟨direction, o₁.val, floor₁⟩, f₁⟩ ⟨mid, ⟨direction, o₂.val, floor₂⟩, f₂⟩
      (a := ⟨o₁.val + o₂.val, hfits⟩) h₁ h₂ rfl rfl rfl
  have hword : 0 < o₁.val + o₂.val := by omega
  obtain ⟨next, htrade⟩ :=
    exists_trade_of_swap hfree hword hswap (hfloor.trans hreceived) hsettle
  exact ⟨f, next, htrade, hreceived, hpaid⟩

theorem trade_add_sample :
    ∃ mid last, Genesis.sample.pool.trade .buy 240000000000 0 =
        .ok (⟨.buy, 240000000000, 4000000000, false⟩, mid) ∧
      mid.trade .buy 10000000000000 0 = .ok (⟨.buy, 8510000000000, 46000000000, true⟩, last) ∧
      (240000000000 : ℤ) + 10000000000000 ≤ maxWord ∧
      ∃ f next, Genesis.sample.pool.trade .buy (240000000000 + 10000000000000) Word.zero.val =
          .ok (f, next) ∧
        (4000000000 : ℤ) + 46000000000 ≤ f.received ∧
        f.paid ≤ (240000000000 : ℤ) + 8510000000000 := by
  have h₁ : Genesis.sample.pool.trade .buy 240000000000 0 =
      .ok (⟨.buy, 240000000000, 4000000000, false⟩,
        ⟨Genesis.sample.curve, ⟨240000000000, by decide⟩, ⟨46000000000, by decide⟩⟩) := by
    decide +kernel
  have h₂ : (Pool.mk Genesis.sample.curve ⟨240000000000, by decide⟩
      ⟨46000000000, by decide⟩).trade .buy 10000000000000 0 =
      .ok (⟨.buy, 8510000000000, 46000000000, true⟩,
        ⟨Genesis.sample.curve, ⟨8750000000000, by decide⟩, .zero⟩) := by
    decide +kernel
  have hsum : (240000000000 : ℤ) + 10000000000000 ≤ maxWord := by decide
  exact ⟨_, _, h₁, h₂, hsum, trade_add h₁ h₂ hsum (by decide)⟩

end Pool

end BondingPool
