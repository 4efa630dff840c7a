import BondingPool.Proofs.Oversized
import BondingPool.Proofs.Precision

/-!
# Trades against each other

More collateral buys no fewer tokens, and the same collateral buys no more of them further on. Both hold of the
exact cost, and both have to pass through positions that are rounded. Where the precision of the line suffices, a
larger offer is accepted with a smaller one and brings as much. The same offer at an earlier position may still
bring one token less, or none where it would have brought one. What is paid grows with the offer, except from an
offer that is served whole to one that is capped: all capped offers pay one price, and the first may be above it.

A sell starts from the one position that its collateral has and computes forward only, so on every line more tokens
are accepted with fewer, are charged no less and are paid no less, up to the position and past it.
-/

namespace BondingPool

namespace PriceLine

variable {line : PriceLine} {R R₁ R₂ B a a₁ a₂ : Word} {d d₁ : Demand} {f f₁ f₂ : Fill} {y : ℚ}

theorem swap_buy_received (h : line.swap .buy R.val B.val a.val = .ok f) :
    0 < a.val ∧ 0 < B.val ∧ ∃ d, line.demand R.val a.val = .ok d ∧ 0 < d.wanted ∧
      f.received = min d.wanted B.val := by
  obtain ⟨-, hpaid, hle, hreceived, hsupply, -⟩ := swap_buy_bounds h
  have ha : 0 < a.val := by omega
  have hB : 0 < B.val := by omega
  obtain ⟨d, hd, ⟨hpos, hwhole, rfl⟩ | ⟨-, hlt, price, -, -, -, rfl⟩⟩ :=
    (swap_buy_eq_ok_iff ha).mp h
  · exact ⟨ha, hB, d, hd, hpos, by rw [min_eq_left hwhole]⟩
  · exact ⟨ha, hB, d, hd, hB.trans hlt, by rw [min_eq_right hlt.le]⟩

theorem swap_buy_eq_noOutput (hd : line.demand R.val a.val = .ok d) (hwanted : d.wanted = 0) :
    line.swap .buy R.val B.val a.val = .error (.zeroTrade (.noOutput .buy a.val)) := by
  have hmeet : line.meet d B.val a.val = .ok ⟨.buy, a.val, a.val, d.wanted, none⟩ :=
    meet_eq_ok_iff.mpr (Or.inl ⟨hwanted.trans_le (Nat.zero_le _), rfl⟩)
  rw [swap, size, sizeBuy, hd, ok_bind, hmeet]
  simp [hwanted, Except.mapError, Sizing.fill, ok_bind]

/-! ### A larger offer -/

theorem exists_demand_of_le (h : line.Resolves (R.val + a₁.val)) (hle : a₁.val ≤ a₂.val)
    (hd : line.demand R.val a₁.val = .ok d₁) :
    ∃ d₂, line.demand R.val a₂.val = .ok d₂ ∧ d₁.wanted ≤ d₂.wanted := by
  obtain ⟨after₁, reach₁, hheld, hafter₁, hsold, hreach₁, hwanted⟩ := demand_eq_ok_iff.mp hd
  have hafter₂ : (R.val + a₂.val) * scale ≤ maxPooled := R.add_mul_scale_le_maxPooled a₂
  obtain ⟨reach₂, hreach₂⟩ := line.exists_reach (x := ⟨_, hafter₂.trans (by decide)⟩) hafter₂
  have hreach : reach₁.raw ≤ reach₂.raw := by
    rw [soldAt_raw hreach₁, soldAt_raw hreach₂, hafter₁]
    exact h.soldRaw_down_le (Nat.add_le_add_left hle _)
  refine ⟨⟨d₁.held, d₁.sold, (reach₂.excess d₁.sold).toInteger .down⟩, ?_, ?_⟩
  · exact demand_eq_ok_iff.mpr ⟨_, reach₂, hheld, rfl, hsold, hreach₂, rfl⟩
  · rw [hwanted]
    exact divRounded_mono .down scale scale_pos (Nat.sub_le_sub_right hreach _)

theorem exists_swap_buy_of_le (h : line.Resolves (R.val + a₁.val)) (hle : a₁.val ≤ a₂.val)
    (hswap : line.swap .buy R.val B.val a₁.val = .ok f₁) :
    ∃ f₂, line.swap .buy R.val B.val a₂.val = .ok f₂ ∧ f₁.received ≤ f₂.received := by
  obtain ⟨ha, hB, d₁, hd₁, hpos, hreceived₁⟩ := swap_buy_received hswap
  obtain ⟨d₂, hd₂, hwanted⟩ := exists_demand_of_le h hle hd₁
  obtain ⟨f₂, hswap₂, hreceived₂, -⟩ :=
    exists_swap_buy hB (ha.trans_le hle) hd₂ (hpos.trans_le hwanted)
  refine ⟨f₂, hswap₂, ?_⟩
  rw [hreceived₁, hreceived₂]
  exact_mod_cast min_le_min_right _ hwanted

theorem swap_buy_paid (hle : a₁.val ≤ a₂.val) (h₁ : line.swap .buy R.val B.val a₁.val = .ok f₁)
    (h₂ : line.swap .buy R.val B.val a₂.val = .ok f₂) :
    (f₁.capped = true ∨ f₂.capped = false → f₁.paid ≤ f₂.paid) ∧
    (f₁.capped = false → f₂.capped = true →
      ∃ price : ℕ, line.supplyPrice R B = .ok price ∧ f₁.paid = a₁.val ∧ f₂.paid = price ∧
        f₁.received ≤ f₂.received ∧ (f₁.paid ≤ f₂.paid ↔ a₁.val ≤ price)) := by
  obtain ⟨ha₁, -⟩ := swap_buy_received h₁
  obtain ⟨ha₂, -⟩ := swap_buy_received h₂
  obtain ⟨d₁, -, ⟨-, hwhole₁, rfl⟩ | ⟨-, -, price₁, hprice₁, -, hcharge₁, rfl⟩⟩ :=
    (swap_buy_eq_ok_iff ha₁).mp h₁ <;>
  obtain ⟨d₂, -, ⟨-, -, rfl⟩ | ⟨-, -, price₂, hprice₂, -, -, rfl⟩⟩ :=
    (swap_buy_eq_ok_iff ha₂).mp h₂
  · exact ⟨fun _ => Int.ofNat_le.mpr hle, fun _ => nofun⟩
  · refine ⟨by simp, fun _ _ => ⟨price₂, hprice₂, rfl, rfl, Int.ofNat_le.mpr hwhole₁, ?_⟩⟩
    exact Int.ofNat_le
  · exact ⟨fun _ => Int.ofNat_le.mpr (hcharge₁.trans hle), nofun⟩
  · obtain rfl := Except.ok.inj (hprice₁.symm.trans hprice₂)
    exact ⟨fun _ => le_rfl, nofun⟩

/-! ### The same offer later -/

theorem cost_add_received_le (hle : R₁.val ≤ R₂.val)
    (hswap : line.swap .buy R₂.val B.val a.val = .ok f) (hcost : line.cost y ≤ R₁.val) :
    line.cost (y + f.received) ≤ R₁.val + f.paid := by
  obtain ⟨-, -, -, hpos, -, z, hz, hcover, hstand⟩ := swap_buy_bounds hswap
  have hR : (R₁.val : ℚ) ≤ R₂.val := by exact_mod_cast hle
  have hyz : y ≤ z := line.le_of_cost_le_cost hz (by linarith)
  have hreceived : (0 : ℚ) ≤ f.received := by exact_mod_cast hpos.le
  -- the same number of tokens costs no less from a position further on
  have hrise : f.received * (line.base.value + line.slope.value * (y + f.received / 2)) ≤
      f.received * (line.base.value + line.slope.value * (z + f.received / 2)) := by
    have hs := line.slope.value_nonneg
    gcongr
  rw [cost_add] at hstand ⊢
  linarith

theorem exists_outer_positions (h : line.Locates R.val a.val) (hd : line.demand R.val a.val = .ok d) :
    ∃ low high : Fixed, line.cost low.value ≤ R.val ∧ R.val + a.val ≤ line.cost high.value ∧
      ∀ n : ℕ, low.value + n ≤ high.value → n ≤ d.wanted + 1 := by
  obtain ⟨after, reach, hheld, hafter, hsold, hreach, hwanted⟩ := demand_eq_ok_iff.mp hd
  have hx : d.held.raw ≤ maxPooled := hheld ▸ R.mul_scale_le_maxPooled
  have hx' : after.raw ≤ maxPooled := hafter ▸ R.add_mul_scale_le_maxPooled a
  obtain ⟨low, hlow⟩ := line.exists_reach hx
  obtain ⟨high, hhigh, -⟩ := exists_soldAt (r := .up) hx' fun _ => (divisorRaw_pos_of_base h.1 _ _).ne'
  have hunder : line.cost low.value ≤ d.held.value := soldAt_toward hlow
  have hover : after.value ≤ line.cost high.value := soldAt_toward hhigh
  rw [Fixed.value_natCast hheld] at hunder
  rw [Fixed.value_natCast hafter, Nat.cast_add] at hover
  have hnear := h.soldRaw_up_add_lt
  rw [← hheld, ← hafter, ← soldAt_raw hsold, ← soldAt_raw hreach, ← soldAt_raw hlow,
    ← soldAt_raw hhigh] at hnear
  refine ⟨low, high, hunder, hover, fun n hn => ?_⟩
  rw [Fixed.value_add_natCast_le_iff] at hn
  rcases Nat.lt_or_ge 1 n with hmany | hone
  · have hunit := Nat.mul_le_mul_right scale hmany
    have hmost : n - 1 ≤ d.wanted := by
      rw [hwanted, Fixed.le_toInteger_excess_iff (by omega), Nat.sub_mul]
      omega
    omega
  · omega

theorem received_le_wanted (h : line.Locates R₁.val a.val) (hle : R₁.val ≤ R₂.val)
    (hswap : line.swap .buy R₂.val B.val a.val = .ok f) (hd : line.demand R₁.val a.val = .ok d) :
    f.received ≤ d.wanted + 1 := by
  obtain ⟨-, -, hoffer, hreceived, -⟩ := swap_buy_bounds hswap
  obtain ⟨low, high, hunder, hover, hcount⟩ := exists_outer_positions h hd
  obtain ⟨n, hn⟩ := Int.eq_ofNat_of_zero_le hreceived.le
  have hpaid : (f.paid : ℚ) ≤ a.val := by exact_mod_cast hoffer
  have hstand := cost_add_received_le hle hswap hunder
  rw [hn, Int.cast_natCast] at hstand
  have hbetween : low.value + n ≤ high.value :=
    line.le_of_cost_le_cost high.value_nonneg (by linarith)
  rw [hn]
  exact_mod_cast hcount n hbetween

/-- Exactly counted, a later buyer gets no more for the same offer. Where the positions are located, rounding
takes at most one token from what the earlier buyer gets. -/
theorem swap_buy_earlier (hle : R₁.val ≤ R₂.val)
    (hswap : line.swap .buy R₂.val B.val a.val = .ok f) :
    (∀ y : ℚ, line.cost y ≤ R₁.val → line.cost (y + f.received) ≤ R₁.val + f.paid) ∧
    (line.Locates R₁.val a.val →
      (∃ f₁, line.swap .buy R₁.val B.val a.val = .ok f₁ ∧ f.received ≤ f₁.received + 1) ∨
        f.received = 1 ∧
          line.swap .buy R₁.val B.val a.val = .error (.zeroTrade (.noOutput .buy a.val))) := by
  refine ⟨fun y => cost_add_received_le hle hswap, fun h => ?_⟩
  obtain ⟨ha, hB, -⟩ := swap_buy_received hswap
  obtain ⟨-, -, -, hreceived, hsupply, -⟩ := swap_buy_bounds hswap
  have hnot : ¬ line.Degenerate R₁.val := fun hd =>
    absurd (degenerate_iff.mp hd).2 (divisorRaw_pos_of_base h.1 _ _).ne'
  obtain ⟨d, hd⟩ := exists_demand hnot a
  have hbound := received_le_wanted h hle hswap hd
  rcases Nat.eq_zero_or_pos d.wanted with hzero | hpos
  · exact Or.inr ⟨by omega, swap_buy_eq_noOutput hd hzero⟩
  · obtain ⟨f₁, hswap₁, hreceived₁, -⟩ := exists_swap_buy hB ha hd hpos
    exact Or.inl ⟨f₁, hswap₁, by omega⟩

theorem swap_buy_earlier_sample :
    Word.zero.val ≤ 240000000000 ∧
      Genesis.sample.line.swap .buy 240000000000 50000000000 1000 = .ok ⟨.buy, 1000, 14, false⟩ ∧
      Genesis.sample.line.Locates 0 1000 ∧
      Genesis.sample.line.cost (0 + (14 : ℤ)) ≤ (0 : ℕ) + (1000 : ℤ) ∧
      ((∃ f₁, Genesis.sample.line.swap .buy 0 50000000000 1000 = .ok f₁ ∧
          (14 : ℤ) ≤ f₁.received + 1) ∨
        (14 : ℤ) = 1 ∧ Genesis.sample.line.swap .buy 0 50000000000 1000 =
          .error (.zeroTrade (.noOutput .buy 1000))) := by
  have hle : Word.zero.val ≤ 240000000000 := by decide
  have hswap : Genesis.sample.line.swap .buy 240000000000 50000000000 1000 =
      .ok ⟨.buy, 1000, 14, false⟩ := by
    decide +kernel
  have hlocates : Genesis.sample.line.Locates 0 1000 := by decide
  obtain ⟨hexact, hquoted⟩ := @swap_buy_earlier Genesis.sample.line .zero ⟨240000000000, by decide⟩
    Genesis.sample.supply ⟨1000, by decide⟩ _ hle hswap
  have hstart : Genesis.sample.line.cost 0 ≤ Word.zero.val := by
    rw [cost_zero]
    exact Nat.cast_nonneg _
  exact ⟨hle, hswap, hlocates, hexact 0 hstart, hquoted hlocates⟩

/-- One token is all the later buyer gets, and the earlier one is turned down. -/
theorem swap_buy_later_only :
    3749999998201 ≤ 3749999998212 ∧
      Genesis.sample.line.swap .buy 3749999998212 1000000000000000000 200 =
        .ok ⟨.buy, 200, 1, false⟩ ∧
      Genesis.sample.line.swap .buy 3749999998201 1000000000000000000 200 =
        .error (.zeroTrade (.noOutput .buy 200)) := by
  refine ⟨by decide, ?_, ?_⟩ <;> decide +kernel

/-! ### A larger sell -/

theorem received_le_of_offer_le {sold offer₁ offer₂ kept₁ : Fixed} (held : Fixed)
    (hle : offer₁ ≤ offer₂) (hkept₁ : line.collateralAt (sold.excess offer₁) .up = .ok kept₁) :
    ∃ kept₂, line.collateralAt (sold.excess offer₂) .up = .ok kept₂ ∧
      (held.excess kept₁).toInteger .down ≤ (held.excess kept₂).toInteger .down := by
  have hnearer : sold.excess offer₂ ≤ sold.excess offer₁ := Nat.sub_le_sub_left hle sold.raw
  obtain ⟨kept₂, hkept₂, hless⟩ := exists_collateralAt_of_le hkept₁ hnearer
  refine ⟨kept₂, hkept₂, divRounded_mono .down scale scale_pos ?_⟩
  exact Nat.sub_le_sub_left hless held.raw

theorem past_of_offer_le {held sold offer₁ offer₂ kept₁ kept₂ : Fixed} (hle : offer₁ ≤ offer₂)
    (hlt : sold < offer₁) (hheld : held.raw = R.val * scale) (hoffer₁ : offer₁.raw = a₁.val * scale)
    (hoffer₂ : offer₂.raw = a₂.val * scale)
    (hkept₁ : line.collateralAt (sold.excess offer₁) .up = .ok kept₁)
    (hkept₂ : line.collateralAt (sold.excess offer₂) .up = .ok kept₂) :
    min a₂.val (sold.toInteger .down) = min a₁.val (sold.toInteger .down) ∧
      (held.excess kept₂).toInteger .down = (held.excess kept₁).toInteger .down := by
  obtain ⟨hcharge₁, hall₁⟩ := past_eq hheld hoffer₁ hlt hkept₁
  obtain ⟨hcharge₂, hall₂⟩ := past_eq hheld hoffer₂ (Nat.lt_of_lt_of_le hlt hle) hkept₂
  exact ⟨hcharge₂.trans hcharge₁.symm, hall₂.trans hall₁.symm⟩

/-- A larger sell is accepted with a smaller one, is charged no less and is paid no less. Past the position it is
answered as the smaller one is. -/
theorem swap_sell_mono (hle : a₁.val ≤ a₂.val) (h : line.swap .sell R.val B.val a₁.val = .ok f₁)
    (B' : Word) :
    ∃ f₂, line.swap .sell R.val B'.val a₂.val = .ok f₂ ∧ f₁.paid ≤ f₂.paid ∧
      f₁.received ≤ f₂.received ∧ (f₁.capped = true → f₂ = f₁) := by
  obtain ⟨held, sold, offer₁, kept₁, hheld, hsold, hoffer₁, hkept₁, hpaid, hreceived, rfl⟩ :=
    swap_sell_eq_ok_iff.mp h
  obtain ⟨offer₂, -, hoffer₂⟩ := a₂.exists_ofInt
  have hoffers : offer₁ ≤ offer₂ := by
    rw [Fixed.le_iff_raw, hoffer₁, hoffer₂]
    exact Nat.mul_le_mul_right scale hle
  obtain ⟨kept₂, hkept₂, hmore⟩ := received_le_of_offer_le held hoffers hkept₁
  have hcharge := min_le_min_right (sold.toInteger .down) hle
  refine ⟨_, swap_sell_eq_ok_iff.mpr ⟨held, sold, offer₂, kept₂, hheld, hsold, hoffer₂, hkept₂,
    hpaid.trans_le hcharge, hreceived.trans_le hmore, rfl⟩, ?_, ?_, fun hcapped => ?_⟩
  · exact Int.ofNat_le.mpr hcharge
  · exact Int.ofNat_le.mpr hmore
  · have hlt : sold < offer₁ := of_decide_eq_true hcapped
    obtain ⟨hsame, hall⟩ := past_of_offer_le hoffers hlt hheld hoffer₁ hoffer₂ hkept₁ hkept₂
    have hpast : sold < offer₂ := Nat.lt_of_lt_of_le hlt hoffers
    rw [hsame, hall, decide_eq_true hlt, decide_eq_true hpast]

theorem swap_sell_mono_sample :
    1 ≤ 2 ∧ Genesis.sample.line.swap .sell 51 0 1 = .ok ⟨.sell, 1, 50, false⟩ ∧
      (∃ f₂, Genesis.sample.line.swap .sell 51 7 2 = .ok f₂ ∧ 1 ≤ f₂.paid ∧ 50 ≤ f₂.received) ∧
      Genesis.sample.line.swap .sell 51 0 2 = .ok ⟨.sell, 1, 51, true⟩ ∧
      Genesis.sample.line.swap .sell 51 7 maxWord = .ok ⟨.sell, 1, 51, true⟩ := by
  have hwhole : Genesis.sample.line.swap .sell 51 0 1 = .ok ⟨.sell, 1, 50, false⟩ := by decide
  have hpast : Genesis.sample.line.swap .sell 51 0 2 = .ok ⟨.sell, 1, 51, true⟩ := by decide
  have hle : 1 ≤ 2 := by decide
  have hmost : 2 ≤ maxWord := by decide
  obtain ⟨f, hswap, hpaid, hreceived, -⟩ := @swap_sell_mono Genesis.sample.line ⟨51, by decide⟩
    .zero ⟨1, by decide⟩ ⟨2, by decide⟩ _ hle hwhole ⟨7, by decide⟩
  obtain ⟨f', hswap', -, -, halike⟩ := @swap_sell_mono Genesis.sample.line ⟨51, by decide⟩
    .zero ⟨2, by decide⟩ ⟨maxWord, le_rfl⟩ _ hmost hpast ⟨7, by decide⟩
  obtain rfl := halike rfl
  exact ⟨hle, hwhole, ⟨f, hswap, hpaid, hreceived⟩, hpast, hswap'⟩

end PriceLine

namespace Curve

variable {curve : Curve} {R B a₁ a₂ floor floor₁ floor₂ : Word} {f₁ f₂ : Fill}

/-- With an offer every larger one is accepted and brings no less, where the position that the smaller one
reaches is resolved. -/
theorem trade_buy_mono (hresolves : curve.line.Resolves (R.val + a₁.val)) (hle : a₁.val ≤ a₂.val)
    (h : curve.trade .buy R B a₁ floor = .ok f₁) :
    ∃ f₂, curve.trade .buy R B a₂ floor = .ok f₂ ∧ f₁.received ≤ f₂.received := by
  obtain ⟨hfree, hpos, hswap, hfloor⟩ := trade_eq_ok_iff.mp h
  obtain ⟨f₂, hswap₂, hreceived⟩ := PriceLine.exists_swap_buy_of_le hresolves hle hswap
  refine ⟨f₂, trade_eq_ok_iff.mpr ⟨hfree, ?_, hswap₂, hfloor.trans hreceived⟩, hreceived⟩
  omega

theorem trade_buy_mono_sample :
    Genesis.sample.curve.line.Resolves (240000000000 + 1000) ∧ 1000 ≤ maxWord ∧
      Genesis.sample.curve.trade .buy ⟨240000000000, by decide⟩ Genesis.sample.supply
        ⟨1000, by decide⟩ .zero = .ok ⟨.buy, 1000, 14, false⟩ ∧
      ∃ f₂, Genesis.sample.curve.trade .buy ⟨240000000000, by decide⟩ Genesis.sample.supply
          ⟨maxWord, le_rfl⟩ .zero = .ok f₂ ∧ (14 : ℤ) ≤ f₂.received := by
  have hall : Genesis.sample.curve.line.Resolves (2 * maxWord) := by decide
  have hresolves := hall.of_le (by decide : 240000000000 + 1000 ≤ 2 * maxWord)
  have hle : 1000 ≤ maxWord := by decide
  have h : Genesis.sample.curve.trade .buy ⟨240000000000, by decide⟩ Genesis.sample.supply
      ⟨1000, by decide⟩ .zero = .ok ⟨.buy, 1000, 14, false⟩ := by
    decide +kernel
  refine ⟨hresolves, hle, h, trade_buy_mono ?_ ?_ h⟩
  · exact hresolves
  · exact hle

/-- A slope below precision: one more unit of collateral makes the divisor jump, and nothing is left to buy. -/
theorem trade_buy_not_mono :
    Genesis.shallow.curve.trade .buy ⟨12, by decide⟩ Genesis.shallow.supply ⟨6, by decide⟩ .zero =
        .ok ⟨.buy, 6, 1455844111, false⟩ ∧
      Genesis.shallow.curve.trade .buy ⟨12, by decide⟩ Genesis.shallow.supply ⟨7, by decide⟩ .zero =
        .error (.zeroTrade (.noOutput .buy 7)) := by
  constructor <;> decide +kernel

/-- A larger offer is charged no less than a smaller one unless it is capped and the smaller one is not. Then it
is charged the price of the supply, and the smaller one its own amount, which may be above that price. -/
theorem trade_buy_paid (hle : a₁.val ≤ a₂.val) (h₁ : curve.trade .buy R B a₁ floor₁ = .ok f₁)
    (h₂ : curve.trade .buy R B a₂ floor₂ = .ok f₂) :
    (f₁.capped = true ∨ f₂.capped = false → f₁.paid ≤ f₂.paid) ∧
    (f₁.capped = false → f₂.capped = true →
      ∃ price : ℕ, curve.line.supplyPrice R B = .ok price ∧ f₁.paid = a₁.val ∧ f₂.paid = price ∧
        f₁.received ≤ f₂.received ∧ (f₁.paid ≤ f₂.paid ↔ a₁.val ≤ price)) := by
  obtain ⟨-, -, hswap₁, -⟩ := trade_eq_ok_iff.mp h₁
  obtain ⟨-, -, hswap₂, -⟩ := trade_eq_ok_iff.mp h₂
  exact PriceLine.swap_buy_paid hle hswap₁ hswap₂

theorem trade_buy_paid_sample :
    99 ≤ 150 ∧
      Genesis.sample.curve.trade .buy .zero ⟨1, by decide⟩ ⟨99, by decide⟩ .zero =
        .ok ⟨.buy, 99, 1, false⟩ ∧
      Genesis.sample.curve.trade .buy .zero ⟨1, by decide⟩ ⟨150, by decide⟩ .zero =
        .ok ⟨.buy, 51, 1, true⟩ ∧
      ∃ price : ℕ, Genesis.sample.line.supplyPrice .zero ⟨1, by decide⟩ = .ok price ∧
        ((99 : ℤ) ≤ 51 ↔ 99 ≤ price) := by
  have hle : 99 ≤ 150 := by decide
  have h₁ : Genesis.sample.curve.trade .buy .zero ⟨1, by decide⟩ ⟨99, by decide⟩ .zero =
      .ok ⟨.buy, 99, 1, false⟩ := by
    decide +kernel
  have h₂ : Genesis.sample.curve.trade .buy .zero ⟨1, by decide⟩ ⟨150, by decide⟩ .zero =
      .ok ⟨.buy, 51, 1, true⟩ := by
    decide +kernel
  obtain ⟨-, hcapped⟩ := trade_buy_paid hle h₁ h₂
  obtain ⟨price, hprice, -, -, -, hiff⟩ := hcapped rfl rfl
  exact ⟨hle, h₁, h₂, price, hprice, hiff⟩

/-- The supply is one token at a price of 51, and the offer of 99 is charged 99 for it. -/
theorem trade_buy_overpaid :
    99 ≤ 150 ∧
      Genesis.sample.curve.trade .buy .zero ⟨1, by decide⟩ ⟨99, by decide⟩ .zero =
        .ok ⟨.buy, 99, 1, false⟩ ∧
      Genesis.sample.curve.trade .buy .zero ⟨1, by decide⟩ ⟨150, by decide⟩ .zero =
        .ok ⟨.buy, 51, 1, true⟩ ∧ ¬ (99 : ℤ) ≤ 51 := by
  refine ⟨by decide, ?_, ?_, by decide⟩ <;> decide +kernel

end Curve

end BondingPool
