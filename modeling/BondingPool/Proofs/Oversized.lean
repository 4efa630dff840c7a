import BondingPool.Proofs.Failure
import BondingPool.Proofs.Run

/-!
# Offers that the pool cannot serve whole

A buy that wants more than the pool holds takes all of it, at a price that depends on the pool alone: the
whole token that was wanted beyond the supply pays for all rounding in the price, and where a token costs too
little for that, the price is far below the offer.

A sell past the position takes all collateral for the whole tokens of the position. What the fraction of a
token beyond them cost goes out uncharged, so the collateral left covers what is left of a holding within the
position only where nothing is left of it; what is missing is less than the first token costs.
-/

namespace BondingPool

open Fixed (Failure)

namespace PriceLine

variable {line : PriceLine} {R B a : Word} {demand : Demand} {last full : Fixed} {f : Fill}
  {price : ℕ}

/-- What all bonded tokens of a pool cost together. -/
def supplyPrice (line : PriceLine) (collateral bonded : Word) : Except Failure ℕ := do
  let held ← Fixed.ofInt collateral.val
  let sold ← line.soldAt held .up
  let last ← sold.add (← Fixed.ofInt bonded.val)
  let full ← line.collateralAt last .up
  let charge ← full.sub held
  return charge.toInteger .up

/-- The offer buys more than the pool holds. -/
def Exceeds (line : PriceLine) (collateral bonded offered : Word) : Prop :=
  ∃ demand, line.demand collateral.val offered.val = .ok demand ∧ bonded.val < demand.wanted

/-! ### The rounding of a collateral against the price of a token -/

theorem soldAt_down_value_le {x b : Fixed} (h : line.soldAt x .down = .ok b) :
    b.value ≤ x.value * 2 * rootScale := by
  have hraw : b.raw ≤ x.raw * 2 * rootScale := by
    rw [soldAt_raw h]
    exact soldRaw_le_of_rootScale_le (r := .down) line.rootScale_le_divisorRaw_up
  have hcast : (b.raw : ℚ) ≤ x.raw * 2 * rootScale := by exact_mod_cast hraw
  rw [Fixed.value, Fixed.value, div_mul_eq_mul_div, div_mul_eq_mul_div]
  exact div_le_div_of_nonneg_right hcast Fixed.scale_cast_pos.le

theorem cost_add_rounding_le {y : ℚ}
    (hprice : 2 / scale ≤ line.slope.value * y + line.base.value) :
    line.cost y + (line.slope.value / 2 + 2) / scale ≤ line.cost (y + 1) := by
  have hs := line.slope.value_nonneg
  have hone : (1 : ℚ) ≤ scale := by exact_mod_cast scale_pos
  have hslope : line.slope.value / 2 / scale ≤ line.slope.value / 2 :=
    div_le_self (div_nonneg hs zero_le_two) hone
  rw [cost_add, add_div]
  linarith

theorem cost_add_rounding_le_of_price_lt {y : ℚ} {n : ℕ} (hy : 1 ≤ y)
    (hreach : y ≤ n * 2 * rootScale)
    (hprice : line.slope.value * y + line.base.value < 2 / scale) :
    line.cost y + (line.slope.value / 2 + 2) / scale ≤ n := by
  have hs := line.slope.value_nonneg
  have hb := line.base.value_nonneg
  have hscale : (scale : ℚ) = 10 ^ 18 := by norm_num [scale]
  have hroot : (rootScale : ℚ) = 10 ^ 9 := by norm_num [rootScale]
  rw [hscale] at hprice ⊢
  rw [hroot] at hreach
  have hn : (1 : ℚ) ≤ n := by
    rcases Nat.eq_zero_or_pos n with rfl | hpos
    · norm_num at hreach
      linarith
    · exact_mod_cast hpos
  have hslope : line.slope.value ≤ line.slope.value * y := le_mul_of_one_le_right hs hy
  have hmean : line.cost y ≤ y * (line.slope.value * y + line.base.value) := by
    rw [cost_eq]
    nlinarith [mul_nonneg hs (mul_self_nonneg y)]
  have hcheap : y * (line.slope.value * y + line.base.value) ≤ y * (2 / 10 ^ 18) :=
    mul_le_mul_of_nonneg_left hprice.le (by linarith)
  linarith

/-! ### The price of the whole supply -/

theorem full_le (hdemand : line.demand R.val a.val = .ok demand) (hlt : B.val < demand.wanted)
    (hB : 0 < B.val) (hlast : last.raw = demand.sold.raw + B.val * scale)
    (hfull : line.collateralAt last .up = .ok full) :
    full.raw ≤ demand.held.raw + a.val * scale := by
  obtain ⟨after, reach, hheld, hafter, -, hreach, hwanted⟩ := demand_eq_ok_iff.mp hdemand
  obtain ⟨-, hstand⟩ := demand_bounds hdemand
  have hvalue := Fixed.value_add_natCast hlast
  have hsold := demand.sold.value_nonneg
  have hone : (1 : ℚ) ≤ B.val := by exact_mod_cast hB
  have hy : 1 ≤ last.value := by linarith
  have hstop : last.value ≤ reach.value := by
    apply Fixed.value_le_value_iff.mpr
    rw [Fixed.le_iff_raw, hlast]
    exact (Fixed.le_toInteger_excess_iff hB).mp (hwanted ▸ hlt.le)
  have hnext : line.cost (last.value + 1) ≤ R.val + a.val := by
    have hsucc : (B.val : ℚ) + 1 ≤ demand.wanted := by exact_mod_cast hlt
    exact (line.cost_le_cost (by positivity) (by linarith)).trans (hstand (Nat.zero_lt_of_lt hlt))
  have hnear := (abs_lt.mp (abs_collateralAt_sub_lt hfull)).2
  have hafter' : after.value = (R.val + a.val : ℕ) := Fixed.value_natCast hafter
  have hle : full ≤ after := by
    apply Fixed.value_le_value_iff.mp
    by_cases hprice : 2 / scale ≤ line.slope.value * last.value + line.base.value
    · have hrounding := cost_add_rounding_le hprice
      rw [hafter', Nat.cast_add]
      linarith
    · have hbound : last.value ≤ (R.val + a.val : ℕ) * 2 * rootScale :=
        hstop.trans (hafter' ▸ soldAt_down_value_le hreach)
      have hrounding := cost_add_rounding_le_of_price_lt hy hbound (not_le.mp hprice)
      rw [hafter']
      linarith
  rwa [Fixed.le_iff_raw, hafter, Nat.add_mul, ← hheld] at hle

theorem held_lt_full (hdemand : line.demand R.val a.val = .ok demand) (hB : 0 < B.val)
    (hlast : last.raw = demand.sold.raw + B.val * scale)
    (hfull : line.collateralAt last .up = .ok full) : demand.held < full := by
  obtain ⟨-, -, hheld, -⟩ := demand_eq_ok_iff.mp hdemand
  obtain ⟨hcover, -⟩ := demand_bounds hdemand
  have hcost : line.cost last.value ≤ full.value := collateralAt_toward hfull
  have hpos : (0 : ℚ) < B.val := by exact_mod_cast hB
  -- the position before the supply costs the collateral already
  have hrise := line.cost_lt_cost demand.sold.value_nonneg (lt_add_of_pos_right _ hpos)
  rw [← Fixed.value_add_natCast hlast] at hrise
  rw [← Fixed.value_natCast hheld] at hcover
  by_contra hle
  have hvalue := Fixed.value_le_value_iff.mpr (Fixed.not_lt_iff.mp hle)
  linarith

theorem supplyPrice_eq_ok_iff :
    line.supplyPrice R B = .ok price ↔
      ∃ held sold last full, held.raw = R.val * scale ∧ line.soldAt held .up = .ok sold ∧
        last.raw = sold.raw + B.val * scale ∧ line.collateralAt last .up = .ok full ∧
        held ≤ full ∧ price = (full.excess held).toInteger .up := by
  simp only [supplyPrice, bind_eq_ok_iff, Fixed.ofInt_eq_ok_iff, Fixed.add, Fixed.fit_eq_ok_iff]
  constructor
  · rintro ⟨held, hheld, sold, hsold, supply, hsupply, last, hlast, full, hfull, charge, hcharge, hp⟩
    obtain ⟨hle, rfl⟩ := Fixed.sub_eq_ok_iff.mp hcharge
    cases hp
    exact ⟨held, sold, last, full, hheld, hsold, by rw [hlast, hsupply], hfull, hle, rfl⟩
  · rintro ⟨held, sold, last, full, hheld, hsold, hlast, hfull, hle, rfl⟩
    have hsupply : B.val * scale ≤ maxRaw := (Nat.le_add_left _ _).trans (hlast ▸ last.raw_le)
    exact ⟨held, hheld, sold, hsold, ⟨_, hsupply⟩, rfl, last, hlast, full, hfull, _,
      Fixed.sub_eq_ok_excess hle, rfl⟩

theorem exists_supplyPrice (hdemand : line.demand R.val a.val = .ok demand)
    (hlt : B.val < demand.wanted) (hB : 0 < B.val) :
    ∃ price : ℕ, line.supplyPrice R B = .ok price ∧ 0 < price ∧ price ≤ a.val ∧
      line.meet demand B.val a.val =
        .ok ⟨.buy, a.val, price, B.val, some (.supply demand.wanted)⟩ := by
  obtain ⟨-, -, hheld, -, hsold, -⟩ := demand_eq_ok_iff.mp hdemand
  obtain ⟨s, hs⟩ := exists_meet hdemand B
  rcases meet_eq_ok_iff.mp hs with ⟨hle, -⟩ | ⟨-, last, full, hlast, hfull, rfl⟩
  · exact absurd hlt (Nat.not_lt.mpr hle)
  · have hrise := held_lt_full hdemand hB hlast hfull
    have hcharge := Fixed.toInteger_excess_le_iff.mpr (full_le hdemand hlt hB hlast hfull)
    refine ⟨_, supplyPrice_eq_ok_iff.mpr ?_, Fixed.toInteger_excess_pos_iff.mpr hrise, hcharge, ?_⟩
    · exact ⟨demand.held, demand.sold, last, full, hheld, hsold, hlast, hfull,
        Nat.le_of_lt hrise, rfl⟩
    · rw [hs, min_eq_right (by exact_mod_cast hcharge)]

theorem swap_buy_eq_ok_iff (ha : 0 < a.val) :
    line.swap .buy R.val B.val a.val = .ok f ↔
      ∃ demand, line.demand R.val a.val = .ok demand ∧
        (0 < demand.wanted ∧ demand.wanted ≤ B.val ∧ f = ⟨.buy, a.val, demand.wanted, false⟩ ∨
          0 < B.val ∧ B.val < demand.wanted ∧ ∃ price : ℕ, line.supplyPrice R B = .ok price ∧
            0 < price ∧ price ≤ a.val ∧ f = ⟨.buy, price, B.val, true⟩) := by
  simp only [swap_eq_ok_iff, size, sizeBuy, bind_eq_ok_iff]
  constructor
  · rintro ⟨s, ⟨demand, hdemand, hmeet⟩, hfill⟩
    refine ⟨demand, hdemand, ?_⟩
    obtain ⟨hreceived, -, rfl⟩ := Sizing.fill_eq_ok_iff.mp hfill
    by_cases hle : demand.wanted ≤ B.val
    · obtain rfl : s = ⟨.buy, a.val, a.val, demand.wanted, none⟩ :=
        Except.ok.inj (hmeet.symm.trans (meet_eq_ok_iff.mpr (Or.inl ⟨hle, rfl⟩)))
      exact Or.inl ⟨Nat.pos_of_ne_zero (by simpa using hreceived), hle, rfl⟩
    · have hlt := Nat.not_le.mp hle
      have hB : 0 < B.val := by
        rcases meet_eq_ok_iff.mp hmeet with ⟨hle', -⟩ | ⟨-, last, full, -, -, rfl⟩
        · exact absurd hle' hle
        · exact Nat.pos_of_ne_zero (by simpa using hreceived)
      obtain ⟨price, hprice, hpos, hcharge, hmeet'⟩ := exists_supplyPrice hdemand hlt hB
      obtain rfl := Except.ok.inj (hmeet.symm.trans hmeet')
      exact Or.inr ⟨hB, hlt, price, hprice, hpos, hcharge, rfl⟩
  · rintro ⟨demand, hdemand, ⟨hpos, hle, rfl⟩ | ⟨hB, hlt, price, hprice, hpos, -, rfl⟩⟩
    · refine ⟨_, ⟨demand, hdemand, meet_eq_ok_iff.mpr (Or.inl ⟨hle, rfl⟩)⟩, ?_⟩
      exact Sizing.fill_eq_ok_iff.mpr ⟨by simpa using hpos.ne', by simpa using ha.ne', rfl⟩
    · obtain ⟨price', hprice', -, -, hmeet⟩ := exists_supplyPrice hdemand hlt hB
      obtain rfl := Except.ok.inj (hprice.symm.trans hprice')
      refine ⟨_, ⟨demand, hdemand, hmeet⟩, ?_⟩
      exact Sizing.fill_eq_ok_iff.mpr ⟨by simpa using hB.ne', by simpa using hpos.ne', rfl⟩

theorem exists_price_of_exceeds (hB : 0 < B.val) (h : line.Exceeds R B a) :
    ∃ price : ℕ, line.supplyPrice R B = .ok price ∧ price ≤ a.val ∧
      line.swap .buy R.val B.val a.val = .ok ⟨.buy, price, B.val, true⟩ := by
  obtain ⟨demand, hdemand, hlt⟩ := h
  obtain ⟨price, hprice, hpos, hle, -⟩ := exists_supplyPrice hdemand hlt hB
  refine ⟨price, hprice, hle, (swap_buy_eq_ok_iff (hpos.trans_le hle)).mpr ?_⟩
  exact ⟨demand, hdemand, Or.inr ⟨hB, hlt, price, hprice, hpos, hle, rfl⟩⟩

theorem exists_swap_buy (hB : 0 < B.val) (ha : 0 < a.val)
    (hdemand : line.demand R.val a.val = .ok demand) (hwanted : 0 < demand.wanted) :
    ∃ f, line.swap .buy R.val B.val a.val = .ok f ∧ f.received = min demand.wanted B.val ∧
      f.paid ≤ a.val ∧
      (B.val < demand.wanted → ∃ price : ℕ, line.supplyPrice R B = .ok price ∧ f.paid = price) := by
  by_cases hle : demand.wanted ≤ B.val
  · refine ⟨⟨.buy, a.val, demand.wanted, false⟩, (swap_buy_eq_ok_iff ha).mpr ?_, ?_, le_rfl, ?_⟩
    · exact ⟨demand, hdemand, Or.inl ⟨hwanted, hle, rfl⟩⟩
    · rw [min_eq_left hle]
    · exact fun hlt => absurd hle (Nat.not_le.mpr hlt)
  · have hlt := Nat.not_le.mp hle
    obtain ⟨price, hprice, hcharge, hswap⟩ := exists_price_of_exceeds hB ⟨demand, hdemand, hlt⟩
    refine ⟨_, hswap, ?_, Int.ofNat_le.mpr hcharge, fun _ => ⟨price, hprice, rfl⟩⟩
    rw [min_eq_right hlt.le]

theorem exceeds_iff_capped (hB : 0 < B.val) :
    line.Exceeds R B a ↔ ∃ f, line.swap .buy R.val B.val a.val = .ok f ∧ f.capped = true := by
  constructor
  · intro h
    obtain ⟨price, -, -, hswap⟩ := exists_price_of_exceeds hB h
    exact ⟨_, hswap, rfl⟩
  · rintro ⟨f, hswap, hcapped⟩
    obtain ⟨-, hpaid, hle, -⟩ := swap_buy_bounds hswap
    have ha : 0 < a.val := by exact_mod_cast hpaid.trans_le hle
    obtain ⟨demand, hdemand, ⟨-, -, rfl⟩ | ⟨-, hlt, -⟩⟩ := (swap_buy_eq_ok_iff ha).mp hswap
    · exact absurd hcapped Bool.false_ne_true
    · exact ⟨demand, hdemand, hlt⟩

/-- Every offer that the supply cannot serve is accepted, takes the supply and is charged its price, so all of
them are answered alike. -/
theorem swap_exceeding_eq (line : PriceLine) (R : Word) {B : Word} (hB : 0 < B.val) :
    (∀ a : Word, line.Exceeds R B a → ∃ price : ℕ, line.supplyPrice R B = .ok price ∧
      price ≤ a.val ∧ line.swap .buy R.val B.val a.val = .ok ⟨.buy, price, B.val, true⟩) ∧
    ∀ a a' : Word, line.Exceeds R B a → line.Exceeds R B a' →
      line.swap .buy R.val B.val a.val = line.swap .buy R.val B.val a'.val := by
  refine ⟨fun a h => exists_price_of_exceeds hB h, fun a a' h h' => ?_⟩
  obtain ⟨price, hprice, -, hswap⟩ := exists_price_of_exceeds hB h
  obtain ⟨price', hprice', -, hswap'⟩ := exists_price_of_exceeds hB h'
  obtain rfl := Except.ok.inj (hprice.symm.trans hprice')
  rw [hswap, hswap']

theorem swap_exceeding_eq_sample :
    0 < Genesis.sample.supply.val ∧
      Genesis.sample.line.Exceeds .zero Genesis.sample.supply ⟨8750000000301, by decide⟩ ∧
      Genesis.sample.line.Exceeds .zero Genesis.sample.supply ⟨maxWord, le_rfl⟩ ∧
      Genesis.sample.line.supplyPrice .zero Genesis.sample.supply = .ok 8750000000000 ∧
      Genesis.sample.line.swap .buy 0 50000000000 8750000000301 =
        .ok ⟨.buy, 8750000000000, 50000000000, true⟩ ∧
      Genesis.sample.line.swap .buy 0 50000000000 8750000000301 =
        Genesis.sample.line.swap .buy 0 50000000000 maxWord := by
  have hB : 0 < Genesis.sample.supply.val := by decide
  have hexceeds :
      Genesis.sample.line.Exceeds .zero Genesis.sample.supply ⟨8750000000301, by decide⟩ :=
    ⟨⟨.zero, .zero, 50000000001⟩, by decide +kernel, by decide⟩
  have hlargest : Genesis.sample.line.Exceeds .zero Genesis.sample.supply ⟨maxWord, le_rfl⟩ :=
    ⟨⟨.zero, .zero, 85889346502076⟩, by decide +kernel, by decide⟩
  have hprice : Genesis.sample.line.supplyPrice .zero Genesis.sample.supply = .ok 8750000000000 := by
    decide +kernel
  obtain ⟨hcharge, halike⟩ := swap_exceeding_eq Genesis.sample.line .zero hB
  obtain ⟨price, hprice', -, hswap⟩ := hcharge _ hexceeds
  obtain rfl := Except.ok.inj (hprice'.symm.trans hprice)
  have hsame := halike _ _ hexceeds hlargest
  exact ⟨hB, hexceeds, hlargest, hprice, hswap, hsame⟩

/-! ### Sells past the position -/

section Sell

variable {collateral bonded offered : ℕ} {x : ℚ}

theorem cost_left_le_of_not_capped
    (h : line.swap .sell collateral bonded offered = .ok f) (hcapped : f.capped = false)
    (hpaid : f.paid ≤ x) (hx : line.cost x ≤ collateral) :
    line.cost (x - f.paid) ≤ collateral - f.received := by
  obtain ⟨-, -, -, -, -, y, hy, hcover, ⟨-, hwhole, -, hleft⟩ | ⟨hcapped', -⟩⟩ := swap_sell_bounds h
  · have hxy : x ≤ y := line.le_of_cost_le_cost hy (hx.trans hcover)
    have hle : line.cost (x - f.paid) ≤ line.cost (y - f.paid) :=
      line.cost_le_cost (sub_nonneg.mpr hpaid) (by linarith)
    rw [hwhole, Int.cast_natCast] at hle ⊢
    exact hle.trans hleft
  · exact absurd (hcapped.symm.trans hcapped') Bool.false_ne_true

theorem capped_sell_eq (h : line.swap .sell collateral bonded offered = .ok f)
    (hcapped : f.capped = true) :
    ∃ sold, (do line.soldAt (← Fixed.ofInt collateral) .up) = .ok sold ∧
      f.paid = sold.toInteger .down ∧ f.received = collateral ∧
        collateral ≤ line.cost sold.value := by
  obtain ⟨-, -, -, -, -, held, sold, hheld, hsold, hcover, -, hpast⟩ := swap_sell_position h
  obtain ⟨-, hcharge, hall⟩ := hpast hcapped
  exact ⟨sold, bind_eq_ok_iff.mpr ⟨held, Fixed.ofInt_eq_ok_iff.mpr hheld, hsold⟩, hcharge, hall,
    hcover⟩

theorem lt_paid_add_one_of_capped (h : line.swap .sell collateral bonded offered = .ok f)
    (hcapped : f.capped = true) (hx : line.cost x ≤ collateral) : x < f.paid + 1 := by
  obtain ⟨sold, -, hpaid, -, hcover⟩ := capped_sell_eq h hcapped
  have hle : x ≤ sold.value := line.le_of_cost_le_cost sold.value_nonneg (hx.trans hcover)
  have hfloor := Int.lt_floor_add_one sold.value
  rw [← Fixed.toInteger_down_eq_floor, ← hpaid] at hfloor
  linarith

/-- A sell leaves the cost of what is left of every position that the collateral covers, unless it is capped
and charged less than that position; even then less than the cost of one token is missing. -/
theorem swap_sell_leaves (h : line.swap .sell collateral bonded offered = .ok f)
    (hpaid : f.paid ≤ x) (hx : line.cost x ≤ collateral) :
    (f.capped = false → line.cost (x - f.paid) ≤ collateral - f.received) ∧
    (f.capped = true →
      (∃ sold, (do line.soldAt (← Fixed.ofInt collateral) .up) = .ok sold ∧
        f.paid = sold.toInteger .down) ∧
      f.received = collateral ∧ x < f.paid + 1 ∧
      (line.cost (x - f.paid) ≤ collateral - f.received ↔ x = f.paid)) ∧
    line.cost (x - f.paid) < collateral - f.received + line.cost 1 := by
  have hleft := sub_nonneg.mpr hpaid
  have hone : 0 < line.cost 1 := line.cost_zero ▸ line.cost_lt_cost le_rfl one_pos
  refine ⟨fun hcapped => cost_left_le_of_not_capped h hcapped hpaid hx, fun hcapped => ?_, ?_⟩
  · obtain ⟨sold, hsold, hcharge, hall, -⟩ := capped_sell_eq h hcapped
    refine ⟨⟨sold, hsold, hcharge⟩, hall, lt_paid_add_one_of_capped h hcapped hx, ?_⟩
    rw [hall, Int.cast_natCast, sub_self]
    constructor
    · intro hle
      rw [← line.cost_zero] at hle
      exact sub_eq_zero.mp (le_antisymm (line.le_of_cost_le_cost le_rfl hle) hleft)
    · intro heq
      rw [heq, sub_self, cost_zero]
  · cases hcapped : f.capped with
    | false =>
      have hle := cost_left_le_of_not_capped h hcapped hpaid hx
      linarith
    | true =>
      obtain ⟨-, -, -, hall, -⟩ := capped_sell_eq h hcapped
      have hnext := sub_lt_iff_lt_add'.mpr (lt_paid_add_one_of_capped h hcapped hx)
      have hlt := line.cost_lt_cost hleft hnext
      rw [hall, Int.cast_natCast, sub_self, zero_add]
      exact hlt

theorem swap_sell_leaves_sample :
    Genesis.sample.line.swap .sell 51 0 2 = .ok ⟨.sell, 1, 51, true⟩ ∧
      ((1 : ℤ) : ℚ) ≤ 101 / 100 ∧ Genesis.sample.line.cost (101 / 100) ≤ (51 : ℕ) ∧
      Genesis.sample.line.cost (101 / 100 - (1 : ℤ)) <
        (51 : ℕ) - (51 : ℤ) + Genesis.sample.line.cost 1 := by
  have hswap : Genesis.sample.line.swap .sell 51 0 2 = .ok ⟨.sell, 1, 51, true⟩ := by
    decide +kernel
  have hpaid : ((1 : ℤ) : ℚ) ≤ 101 / 100 := by norm_num
  have hcover : Genesis.sample.line.cost (101 / 100) ≤ (51 : ℕ) := by
    norm_num [cost, Genesis.sample]
  exact ⟨hswap, hpaid, hcover, (swap_sell_leaves hswap hpaid hcover).2.2⟩

/-- There the pool is left with nothing, and the hundredth of a token that is left costs something. -/
theorem swap_sell_leaves_uncovered :
    Genesis.sample.line.swap .sell 51 0 2 = .ok ⟨.sell, 1, 51, true⟩ ∧
      ((1 : ℤ) : ℚ) ≤ 101 / 100 ∧ Genesis.sample.line.cost (101 / 100) ≤ (51 : ℕ) ∧
      ¬ Genesis.sample.line.cost (101 / 100 - (1 : ℤ)) ≤ (51 : ℕ) - (51 : ℤ) := by
  refine ⟨by decide +kernel, by norm_num, ?_, ?_⟩ <;> norm_num [cost, Genesis.sample]

end Sell

end PriceLine

end BondingPool
