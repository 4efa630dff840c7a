import BondingPool.PriceLine.Sizing
import BondingPool.Proofs.Cost

/-!
# What an accepted swap moved

A swap is opened here once: which positions it compared, which branch it took and what the fill says.
Then both directions are bounded against the exact cost. A buyer ends at a position that the enlarged
collateral covers, whether capped or not; a seller leaves behind the cost of the position that is left,
or, past the position, is charged its whole tokens and takes all.
-/

namespace BondingPool

namespace PriceLine

variable {line : PriceLine} {direction : Direction} {R B a : ℕ} {s : Sizing} {f : Fill}

theorem swap_eq_ok_iff {collateral bonded offered : ℤ} :
    line.swap direction collateral bonded offered = .ok f ↔
      ∃ s, line.size direction collateral bonded offered = .ok s ∧ s.fill = .ok f := by
  simp only [swap, bind_eq_ok_iff, mapError_eq_ok_iff]

theorem swap_eq_calculation_iff {collateral bonded offered : ℤ} {cause : CalculationFault} :
    line.swap direction collateral bonded offered = .error (.calculation cause) ↔
      ∃ failure, line.size direction collateral bonded offered = .error failure ∧
        cause = .arithmetic failure := by
  simp only [swap, bind_eq_error_iff, mapError_eq_error_iff, mapError_eq_ok_iff, Rejection.ofFailure,
    Rejection.calculation.injEq, reduceCtorEq, and_false, exists_false, or_false]
  exact exists_congr fun failure => and_congr_right fun _ => eq_comm

theorem demand_eq_ok_iff {demand : Demand} :
    line.demand R a = .ok demand ↔
      ∃ after reach, demand.held.raw = R * scale ∧ after.raw = (R + a) * scale ∧
        line.soldAt demand.held .up = .ok demand.sold ∧ line.soldAt after .down = .ok reach ∧
        demand.wanted = (reach.excess demand.sold).toInteger .down := by
  have hsum : ((R : ℤ) + a) = ((R + a : ℕ) : ℤ) := by push_cast; rfl
  simp only [PriceLine.demand, hsum, bind_eq_ok_iff, Fixed.ofInt_eq_ok_iff]
  constructor
  · rintro ⟨held, hheld, sold, hsold, after, hafter, reach, hreach, hd⟩
    cases hd
    exact ⟨after, reach, hheld, hafter, hsold, hreach, rfl⟩
  · rintro ⟨after, reach, hheld, hafter, hsold, hreach, hwanted⟩
    refine ⟨demand.held, hheld, demand.sold, hsold, after, hafter, reach, hreach, ?_⟩
    rw [← hwanted]
    rfl

theorem charge_eq (held full : Fixed) (a : ℕ) :
    (if held < full then min (a : ℤ) ((full.excess held).toInteger .up) else 0) =
      min (a : ℤ) ((full.excess held).toInteger .up) := by
  split
  · rfl
  · next h =>
    rw [Fixed.excess_eq_zero (Fixed.not_lt_iff.mp h), Fixed.toInteger, Fixed.zero, divRounded_zero]
    simp

theorem meet_eq_ok_iff {demand : Demand} :
    line.meet demand B a = .ok s ↔
      demand.wanted ≤ B ∧ s = ⟨.buy, a, a, demand.wanted, none⟩ ∨
      B < demand.wanted ∧ ∃ last full, last.raw = demand.sold.raw + B * scale ∧
        line.collateralAt last .up = .ok full ∧
        s = ⟨.buy, a, min (a : ℤ) ((full.excess demand.held).toInteger .up), B,
          some (.supply demand.wanted)⟩ := by
  unfold meet
  split
  · next h =>
    have hlt : B < demand.wanted := by exact_mod_cast h
    simp only [Nat.not_le.mpr hlt, hlt, false_and, false_or, true_and, bind_eq_ok_iff,
      Fixed.ofInt_eq_ok_iff, Fixed.add, Fixed.fit_eq_ok_iff, charge_eq]
    constructor
    · rintro ⟨supply, hsupply, last, hlast, full, hfull, hs⟩
      cases hs
      exact ⟨last, full, by rw [hlast, hsupply], hfull, rfl⟩
    · rintro ⟨last, full, hlast, hfull, rfl⟩
      have hle : B * scale ≤ maxRaw := (Nat.le_add_left _ _).trans (hlast ▸ last.raw_le)
      exact ⟨⟨_, hle⟩, rfl, last, hlast, full, hfull, rfl⟩
  · next h =>
    have hle : demand.wanted ≤ B := by exact_mod_cast not_lt.mp h
    simp only [hle, Nat.not_lt.mpr hle, false_and, or_false, true_and]
    exact ⟨fun hs => by cases hs; rfl, fun hs => by rw [hs]; rfl⟩

theorem sizeSell_eq_ok_iff :
    line.sizeSell R a = .ok s ↔
      ∃ held sold offer kept, held.raw = R * scale ∧ line.soldAt held .up = .ok sold ∧
        offer.raw = a * scale ∧ line.collateralAt (sold.excess offer) .up = .ok kept ∧
        (sold < offer ∧ s = ⟨.sell, a, min (a : ℤ) (sold.toInteger .down),
          (held.excess kept).toInteger .down, some (.position sold)⟩ ∨
        offer ≤ sold ∧ s = ⟨.sell, a, a, (held.excess kept).toInteger .down, none⟩) := by
  simp only [sizeSell, bind_eq_ok_iff, Fixed.ofInt_eq_ok_iff]
  constructor
  · rintro ⟨held, hheld, sold, hsold, offer, hoffer, kept, hkept, hs⟩
    refine ⟨held, sold, offer, kept, hheld, hsold, hoffer, hkept, ?_⟩
    split at hs
    · next h =>
      cases hs
      exact Or.inl ⟨h, rfl⟩
    · next h =>
      cases hs
      exact Or.inr ⟨Fixed.not_lt_iff.mp h, rfl⟩
  · rintro ⟨held, sold, offer, kept, hheld, hsold, hoffer, hkept, hs⟩
    refine ⟨held, hheld, sold, hsold, offer, hoffer, kept, hkept, ?_⟩
    rcases hs with ⟨h, rfl⟩ | ⟨h, rfl⟩
    · rw [if_pos h]
      rfl
    · rw [if_neg (Fixed.not_lt_iff.mpr h)]
      rfl

theorem swap_sell_eq_ok_iff :
    line.swap .sell R B a = .ok f ↔
      ∃ held sold offer kept, held.raw = R * scale ∧ line.soldAt held .up = .ok sold ∧
        offer.raw = a * scale ∧ line.collateralAt (sold.excess offer) .up = .ok kept ∧
        0 < min a (sold.toInteger .down) ∧ 0 < (held.excess kept).toInteger .down ∧
        f = ⟨.sell, (min a (sold.toInteger .down) : ℕ), (held.excess kept).toInteger .down,
          decide (sold < offer)⟩ := by
  have whole_eq {sold offer : Fixed} (hoffer : offer.raw = a * scale) (hge : offer ≤ sold) :
      min a (sold.toInteger .down) = a :=
    min_eq_left ((Fixed.le_toInteger_down_iff hoffer).mpr hge)
  simp only [swap_eq_ok_iff, size, sizeSell_eq_ok_iff]
  constructor
  · rintro ⟨s, ⟨held, sold, offer, kept, hheld, hsold, hoffer, hkept, hcase⟩, hfill⟩
    obtain ⟨hreceived, hpaid, rfl⟩ := Sizing.fill_eq_ok_iff.mp hfill
    refine ⟨held, sold, offer, kept, hheld, hsold, hoffer, hkept, ?_⟩
    rcases hcase with ⟨hlt, rfl⟩ | ⟨hge, rfl⟩ <;> dsimp only at hreceived hpaid
    · exact ⟨by omega, by omega, by simp [hlt]⟩
    · rw [whole_eq hoffer hge]
      exact ⟨by omega, by omega, by simp [Fixed.not_lt_iff.mpr hge]⟩
  · rintro ⟨held, sold, offer, kept, hheld, hsold, hoffer, hkept, hpaid, hreceived, rfl⟩
    by_cases hlt : sold < offer
    · refine ⟨_, ⟨held, sold, offer, kept, hheld, hsold, hoffer, hkept, Or.inl ⟨hlt, rfl⟩⟩, ?_⟩
      refine Sizing.fill_eq_ok_iff.mpr ⟨?_, ?_, ?_⟩ <;> dsimp only
      · omega
      · omega
      · simp [hlt]
    · have hge := Fixed.not_lt_iff.mp hlt
      rw [whole_eq hoffer hge] at hpaid ⊢
      refine ⟨_, ⟨held, sold, offer, kept, hheld, hsold, hoffer, hkept, Or.inr ⟨hge, rfl⟩⟩, ?_⟩
      refine Sizing.fill_eq_ok_iff.mpr ⟨?_, ?_, ?_⟩ <;> dsimp only
      · omega
      · omega
      · simp [hlt]

theorem demand_bounds {demand : Demand} (h : line.demand R a = .ok demand) :
    R ≤ line.cost demand.sold.value ∧
      (0 < demand.wanted → line.cost (demand.sold.value + demand.wanted) ≤ R + a) := by
  obtain ⟨after, reach, hheld, hafter, hsold, hreach, hwanted⟩ := demand_eq_ok_iff.mp h
  have hcover : demand.held.value ≤ line.cost demand.sold.value := soldAt_toward hsold
  have hunder : line.cost reach.value ≤ after.value := soldAt_toward hreach
  rw [Fixed.value_natCast hheld] at hcover
  rw [Fixed.value_natCast hafter, Nat.cast_add] at hunder
  refine ⟨hcover, fun hpos => le_trans ?_ hunder⟩
  have hy := demand.sold.value_nonneg
  have hstop : demand.sold.value + demand.wanted ≤ reach.value :=
    Fixed.value_add_natCast_le_iff.mpr ((Fixed.le_toInteger_excess_iff hpos).mp hwanted.le)
  exact line.cost_le_cost (by positivity) hstop

theorem cost_capped_le {demand : Demand} {last full : Fixed} (h : line.demand R a = .ok demand)
    (hlt : B < demand.wanted) (hlast : last.raw = demand.sold.raw + B * scale)
    (hfull : line.collateralAt last .up = .ok full) :
    line.cost (demand.sold.value + B) ≤
      R + (min (a : ℤ) ((full.excess demand.held).toInteger .up) : ℤ) := by
  obtain ⟨-, hstand⟩ := demand_bounds h
  obtain ⟨after, reach, hheld, -⟩ := demand_eq_ok_iff.mp h
  have hy := demand.sold.value_nonneg
  have hlast' := Fixed.value_add_natCast hlast
  have hcost : line.cost last.value ≤ full.value := collateralAt_toward hfull
  have hceil : full.value ≤ demand.held.value + (full.excess demand.held).toInteger .up :=
    Fixed.value_le_add_natCast_iff.mpr (Fixed.toInteger_excess_le_iff.mp le_rfl)
  rw [Fixed.value_natCast hheld] at hceil
  push_cast
  rw [← min_add_add_left, le_min_iff]
  constructor
  · have hB : (B : ℚ) ≤ demand.wanted := by exact_mod_cast hlt.le
    exact (line.cost_le_cost (by positivity) (by linarith)).trans (hstand (by omega))
  · rw [← hlast']
    linarith

/-- The buyer goes on from the recovered position to one that the enlarged collateral covers. -/
theorem swap_buy_position (h : line.swap .buy R B a = .ok f) :
    f.direction = .buy ∧ 0 < f.paid ∧ f.paid ≤ a ∧ 0 < f.received ∧ f.received ≤ B ∧
      ∃ held sold : Fixed, held.raw = R * scale ∧ line.soldAt held .up = .ok sold ∧
        R ≤ line.cost sold.value ∧ line.cost (sold.value + f.received) ≤ R + f.paid := by
  obtain ⟨s, hs, hf⟩ := swap_eq_ok_iff.mp h
  obtain ⟨demand, hdemand, hmeet⟩ := bind_eq_ok_iff.mp hs
  obtain ⟨hreceived, hpaid, rfl⟩ := Sizing.fill_eq_ok_iff.mp hf
  obtain ⟨-, -, hheld, -, hsold, -⟩ := demand_eq_ok_iff.mp hdemand
  obtain ⟨hcover, hstand⟩ := demand_bounds hdemand
  rcases meet_eq_ok_iff.mp hmeet with ⟨hle, rfl⟩ | ⟨hlt, last, full, hlast, hfull, rfl⟩
  · have hpos : 0 < demand.wanted := Nat.pos_of_ne_zero (by simpa using hreceived)
    have ha : (0 : ℤ) < a := lt_of_le_of_ne (Int.natCast_nonneg a) (Ne.symm hpaid)
    have hw : (0 : ℤ) < demand.wanted := Int.natCast_pos.mpr hpos
    have hwB : (demand.wanted : ℤ) ≤ B := Int.ofNat_le.mpr hle
    refine ⟨rfl, ha, le_rfl, hw, hwB, demand.held, demand.sold, hheld, hsold, hcover, ?_⟩
    exact_mod_cast hstand hpos
  · have hB : (0 : ℤ) < B := lt_of_le_of_ne (Int.natCast_nonneg B) (Ne.symm hreceived)
    have hcharge : 0 < min (a : ℤ) ((full.excess demand.held).toInteger .up) :=
      lt_of_le_of_ne (by omega) (Ne.symm hpaid)
    refine ⟨rfl, hcharge, min_le_left _ _, hB, le_rfl, demand.held, demand.sold, hheld, hsold,
      hcover, ?_⟩
    exact_mod_cast cost_capped_le hdemand hlt hlast hfull

theorem swap_buy_bounds (h : line.swap .buy R B a = .ok f) :
    f.direction = .buy ∧ 0 < f.paid ∧ f.paid ≤ a ∧ 0 < f.received ∧ f.received ≤ B ∧
      ∃ y : ℚ, 0 ≤ y ∧ R ≤ line.cost y ∧ line.cost (y + f.received) ≤ R + f.paid := by
  obtain ⟨hdirection, hpaid, hle, hreceived, hsupply, held, sold, -, -, hcover, hstand⟩ :=
    swap_buy_position h
  exact ⟨hdirection, hpaid, hle, hreceived, hsupply, sold.value, sold.value_nonneg, hcover, hstand⟩

theorem past_eq {held sold offer kept : Fixed} (hheld : held.raw = R * scale)
    (hoffer : offer.raw = a * scale) (hlt : sold < offer)
    (hkept : line.collateralAt (sold.excess offer) .up = .ok kept) :
    min a (sold.toInteger .down) = sold.toInteger .down ∧
      (held.excess kept).toInteger .down = R := by
  rw [Fixed.excess_eq_zero (Nat.le_of_lt hlt)] at hkept
  obtain rfl := collateralAt_zero hkept
  have hwhole : sold.toInteger .down < a := by
    rw [← Nat.not_le, Fixed.le_toInteger_down_iff hoffer]
    exact Nat.not_le.mpr hlt
  exact ⟨min_eq_right hwhole.le, Fixed.toInteger_natCast hheld .down⟩

theorem cost_left_le {held sold offer kept : Fixed} (hheld : held.raw = R * scale)
    (hoffer : offer.raw = a * scale) (hge : offer ≤ sold)
    (hkept : line.collateralAt (sold.excess offer) .up = .ok kept)
    (hreceived : 0 < (held.excess kept).toInteger .down) :
    a ≤ sold.value ∧ line.cost (sold.value - a) ≤ R - (held.excess kept).toInteger .down := by
  have hcost : line.cost (sold.excess offer).value ≤ kept.value := collateralAt_toward hkept
  rw [Fixed.value_excess hge, Fixed.value_natCast hoffer] at hcost
  have hleft : kept.value + (held.excess kept).toInteger .down ≤ held.value :=
    Fixed.value_add_natCast_le_iff.mpr ((Fixed.le_toInteger_excess_iff hreceived).mp le_rfl)
  rw [Fixed.value_natCast hheld] at hleft
  constructor
  · rwa [← Fixed.value_natCast hoffer, Fixed.value_le_value_iff]
  · linarith

/-- The seller leaves the cost of what is left of the recovered position, or is charged its whole tokens and
takes all. -/
theorem swap_sell_position (h : line.swap .sell R B a = .ok f) :
    f.direction = .sell ∧ 0 < f.paid ∧ f.paid ≤ a ∧ 0 < f.received ∧ f.received ≤ R ∧
      ∃ held sold : Fixed, held.raw = R * scale ∧ line.soldAt held .up = .ok sold ∧
        R ≤ line.cost sold.value ∧
        (f.capped = false →
          f.paid = a ∧ a ≤ sold.value ∧ line.cost (sold.value - a) ≤ R - f.received) ∧
        (f.capped = true → sold.value < a ∧ f.paid = sold.toInteger .down ∧ f.received = R) := by
  obtain ⟨held, sold, offer, kept, hheld, hsold, hoffer, hkept, hpaid, hreceived, rfl⟩ :=
    swap_sell_eq_ok_iff.mp h
  have hcover : held.value ≤ line.cost sold.value := soldAt_toward hsold
  rw [Fixed.value_natCast hheld] at hcover
  have hall : held.toInteger .down = R := Fixed.toInteger_natCast hheld .down
  have hle : (held.excess kept).toInteger .down ≤ R :=
    hall ▸ divRounded_mono .down scale scale_pos (Nat.sub_le _ _)
  refine ⟨rfl, Int.natCast_pos.mpr hpaid, Int.ofNat_le.mpr (min_le_left _ _),
    Int.natCast_pos.mpr hreceived, Int.ofNat_le.mpr hle, held, sold, hheld, hsold, hcover, ?_⟩
  by_cases hlt : sold < offer
  · obtain ⟨hwhole, htaken⟩ := past_eq hheld hoffer hlt hkept
    have hya : sold.value < a := by
      rw [← Fixed.value_natCast hoffer, ← not_le, Fixed.value_le_value_iff]
      exact Nat.not_le.mpr hlt
    rw [hwhole, htaken, decide_eq_true hlt]
    exact ⟨nofun, fun _ => ⟨hya, rfl, rfl⟩⟩
  · have hge := Fixed.not_lt_iff.mp hlt
    obtain ⟨hay, hleft⟩ := cost_left_le hheld hoffer hge hkept hreceived
    rw [min_eq_left ((Fixed.le_toInteger_down_iff hoffer).mpr hge), decide_eq_false hlt]
    refine ⟨fun _ => ⟨rfl, hay, ?_⟩, nofun⟩
    push_cast
    exact hleft

theorem swap_sell_bounds (h : line.swap .sell R B a = .ok f) :
    f.direction = .sell ∧ 0 < f.paid ∧ f.paid ≤ a ∧ 0 < f.received ∧ f.received ≤ R ∧
      ∃ y : ℚ, 0 ≤ y ∧ R ≤ line.cost y ∧
        (f.capped = false ∧ f.paid = a ∧ a ≤ y ∧ line.cost (y - a) ≤ R - f.received ∨
          f.capped = true ∧ y < a ∧ f.paid = ⌊y⌋ ∧ f.received = R) := by
  obtain ⟨hdirection, hpaid, hle, hreceived, hheld, held, sold, -, -, hcover, hwhole, hpast⟩ :=
    swap_sell_position h
  rw [Fixed.toInteger_down_eq_floor] at hpast
  refine ⟨hdirection, hpaid, hle, hreceived, hheld, sold.value, sold.value_nonneg, hcover, ?_⟩
  cases hcapped : f.capped with
  | false => exact Or.inl ⟨rfl, hwhole hcapped⟩
  | true => exact Or.inr ⟨rfl, hpast hcapped⟩

end PriceLine

end BondingPool
