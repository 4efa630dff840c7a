import BondingPool.Proofs.SpotPrice

/-!
# The recovered position follows the tokens

A pool keeps no count of what it sold: the position is recovered from the collateral after each trade. A trade
leaves collateral that pays for the recovered position moved by the tokens of the trade, and a position recovered
upwards lies above all that the collateral pays for. So what is recovered afterwards is the old position moved by
at least the whole tokens bought and by at most those sold, and the recovered position together with the tokens in
the pool never goes down.
-/

namespace BondingPool

namespace Curve

variable {curve : Curve} {R R' : Word} {b b' : Fixed} {y : ℚ}

theorem le_sold_of_cost_le (h : curve.sold R = .ok b) (hy : curve.line.cost y ≤ R.val) :
    y ≤ b.value := by
  obtain ⟨held, hheld, hposition⟩ := sold_eq_ok_iff.mp h
  refine ((curve.line.soldAt_brackets held).2 b hposition).2 y ?_
  rwa [Fixed.value_natCast hheld]

theorem exists_spotPrice_le (h : curve.sold R = .ok b) (h' : curve.sold R' = .ok b') (hle : b ≤ b') :
    ∃ p p', curve.spotPrice R = .ok p ∧ curve.spotPrice R' = .ok p' ∧ p ≤ p' := by
  obtain ⟨p', hp'⟩ := exists_spotPrice_of_sold h'
  obtain ⟨position, hposition, hprice⟩ := spotPrice_eq_ok_iff.mp hp'
  obtain rfl := Except.ok.inj (hposition.symm.trans h')
  obtain ⟨p, hp, hpp⟩ := PriceLine.exists_priceAt_of_le hprice hle
  exact ⟨p, p', spotPrice_eq_ok_iff.mpr ⟨b, h, hp⟩, hp', hpp⟩

end Curve

namespace Trade

variable {t : Trade} {next : Pool} {b' : Fixed}

theorem Leaves.sold_of_buy (h : t.Leaves next) (hd : t.offer.direction = .buy)
    (hsold : next.sold = .ok b') :
    ∃ b, t.before.sold = .ok b ∧ b.value + t.fill.received ≤ b'.value := by
  obtain ⟨offered, -, hswap, -⟩ := h.buy hd
  obtain ⟨-, -, -, -, -, held, b, hheld, hposition, -, hstand⟩ := PriceLine.swap_buy_position hswap
  refine ⟨b, Curve.sold_eq_ok_iff.mpr ⟨held, hheld, hposition⟩, Curve.le_sold_of_cost_le hsold ?_⟩
  rwa [h.swap.1, (h.balances_of_buy hd).1]

theorem Leaves.sold_of_sell (h : t.Leaves next) (hd : t.offer.direction = .sell)
    (hsold : next.sold = .ok b') :
    ∃ b, t.before.sold = .ok b ∧ (t.fill.capped = false → b.value - t.fill.paid ≤ b'.value) := by
  obtain ⟨offered, -, hswap, -⟩ := h.sell hd
  obtain ⟨-, -, -, -, -, held, b, hheld, hposition, -, hwhole, -⟩ :=
    PriceLine.swap_sell_position hswap
  refine ⟨b, Curve.sold_eq_ok_iff.mpr ⟨held, hheld, hposition⟩, fun hcapped => ?_⟩
  obtain ⟨hcharge, -, hleft⟩ := hwhole hcapped
  refine Curve.le_sold_of_cost_le hsold ?_
  rwa [h.swap.1, (h.balances_of_sell hd).1, hcharge, Int.cast_natCast]

theorem Leaves.spotPrice_of_buy (h : t.Leaves next) (hd : t.offer.direction = .buy)
    (hsold : next.sold = .ok b') :
    ∃ p p', t.before.spotPrice = .ok p ∧ next.spotPrice = .ok p' ∧ p ≤ p' := by
  obtain ⟨offered, -, hswap, -⟩ := h.buy hd
  obtain ⟨-, -, -, hreceived, -⟩ := PriceLine.swap_buy_bounds hswap
  obtain ⟨b, hb, hmoved⟩ := h.sold_of_buy hd hsold
  have hpos : (0 : ℚ) < t.fill.received := by exact_mod_cast hreceived
  have hle : b ≤ b' := Fixed.value_le_value_iff.mp (by linarith)
  rw [Pool.sold, h.swap.1] at hsold
  rw [Pool.spotPrice, Pool.spotPrice, h.swap.1]
  exact Curve.exists_spotPrice_le hb hsold hle

end Trade

namespace Pool

variable {start next last : Pool} {t : Trade} {level : ℚ} {offers : List Offer}
  {trades : List Trade}

/-- Where a position is recovered, it makes up at least this level with the tokens that the pool holds. -/
def Reaches (level : ℚ) (pool : Pool) : Prop :=
  ∀ b, pool.sold = .ok b → level ≤ b.value + pool.bonded.val

theorem Reaches.step (h : t.before.Reaches level)
    (hwhole : t.offer.direction = .sell → t.fill.capped = false) (hleaves : t.Leaves next) :
    next.Reaches level := by
  intro b' hsold
  cases hd : t.offer.direction with
  | buy =>
    obtain ⟨b, hb, hmoved⟩ := hleaves.sold_of_buy hd hsold
    obtain ⟨-, hbonded⟩ := hleaves.balances_of_buy hd
    have hlevel := h b hb
    linarith
  | sell =>
    -- a sell cut short gives back whole tokens only, and the part of one beyond them is gone
    obtain ⟨b, hb, hsells⟩ := hleaves.sold_of_sell hd hsold
    have hmoved := hsells (hwhole hd)
    obtain ⟨-, hbonded⟩ := hleaves.balances_of_sell hd
    have hlevel := h b hb
    linarith

theorem run_reaches (h : start.run offers = .ok (trades, last))
    (hwhole : ∀ t ∈ trades, t.offer.direction = .sell → t.fill.capped = false)
    (hlevel : start.Reaches level) : last.Reaches level :=
  (run_preserves (fun _ _ hP hQ hleaves => hP.step hQ hleaves) h hwhole hlevel).1

/-- A position recovered after a trade has followed the tokens of the trade, and over a run that cuts no sell
short it has followed those of the run. -/
theorem position_follows (pool : Pool) :
    (∀ direction offered floor fill next b', pool.trade direction offered floor = .ok (fill, next) →
      next.sold = .ok b' → ∃ b, pool.sold = .ok b ∧
        (direction = .buy → b.value + fill.received ≤ b'.value ∧
          ∃ p p', pool.spotPrice = .ok p ∧ next.spotPrice = .ok p' ∧ p ≤ p') ∧
        (direction = .sell → fill.capped = false → b.value - fill.paid ≤ b'.value)) ∧
    ∀ offers trades last b b', pool.run offers = .ok (trades, last) →
      (∀ t ∈ trades, t.offer.direction = .sell → t.fill.capped = false) →
      pool.sold = .ok b → last.sold = .ok b' →
      b.value + pool.bonded.val ≤ b'.value + last.bonded.val := by
  constructor
  · intro direction offered floor fill next b' htrade hsold
    have hleaves : (Trade.mk pool ⟨direction, offered, floor⟩ fill).Leaves next := htrade
    cases direction with
    | buy =>
      obtain ⟨b, hb, hmoved⟩ := hleaves.sold_of_buy rfl hsold
      exact ⟨b, hb, fun _ => ⟨hmoved, hleaves.spotPrice_of_buy rfl hsold⟩, nofun⟩
    | sell =>
      obtain ⟨b, hb, hmoved⟩ := hleaves.sold_of_sell rfl hsold
      exact ⟨b, hb, nofun, fun _ => hmoved⟩
  · intro offers trades last b b' hrun hwhole hb hb'
    refine run_reaches hrun hwhole (fun c hc => ?_) b' hb'
    obtain rfl := Except.ok.inj (hc.symm.trans hb)
    exact le_rfl

theorem position_follows_sample :
    ∃ (bought last : Pool) (b b' c : Fixed),
      (Pool.mk Genesis.sample.curve ⟨240000000000, by decide⟩ Genesis.sample.supply).trade
          .buy 1000 0 = .ok (⟨.buy, 1000, 14, false⟩, bought) ∧
      bought.trade .sell 13 0 = .ok (⟨.sell, 13, 910, false⟩, last) ∧
      (Pool.mk Genesis.sample.curve ⟨240000000000, by decide⟩ Genesis.sample.supply).sold = .ok b ∧
      bought.sold = .ok b' ∧ last.sold = .ok c ∧
      b.value + (14 : ℤ) ≤ b'.value ∧ b'.value - (13 : ℤ) ≤ c.value ∧
      (∃ p p', (Pool.mk Genesis.sample.curve ⟨240000000000, by decide⟩
          Genesis.sample.supply).spotPrice = .ok p ∧ bought.spotPrice = .ok p' ∧ p ≤ p') ∧
      b.value + Genesis.sample.supply.val ≤ c.value + last.bonded.val := by
  let start := Pool.mk Genesis.sample.curve ⟨240000000000, by decide⟩ Genesis.sample.supply
  let bought := Pool.mk Genesis.sample.curve ⟨240000001000, by decide⟩ ⟨49999999986, by decide⟩
  let last := Pool.mk Genesis.sample.curve ⟨240000000090, by decide⟩ ⟨49999999999, by decide⟩
  have hbuy : start.trade .buy 1000 0 = .ok (⟨.buy, 1000, 14, false⟩, bought) := by decide
  have hsell : bought.trade .sell 13 0 = .ok (⟨.sell, 13, 910, false⟩, last) := by decide
  have hlast : last.sold = .ok ⟨4000000001285714285664455783, by decide⟩ := by decide
  have hrun : start.run [⟨.buy, 1000, 0⟩, ⟨.sell, 13, 0⟩] =
      .ok ([⟨start, ⟨.buy, 1000, 0⟩, ⟨.buy, 1000, 14, false⟩⟩,
        ⟨bought, ⟨.sell, 13, 0⟩, ⟨.sell, 13, 910, false⟩⟩], last) := by
    decide
  obtain ⟨b', hb', -, hsold⟩ := (position_follows bought).1 _ _ _ _ _ _ hsell hlast
  obtain ⟨b, hb, hbought, -⟩ := (position_follows start).1 _ _ _ _ _ _ hbuy hb'
  obtain ⟨hmoved, hprice⟩ := hbought rfl
  have hfollows := (position_follows start).2 _ _ _ _ _ hrun (by decide) hb hlast
  exact ⟨bought, last, b, b', _, hbuy, hsell, hb, hb', hlast, hmoved, hsold rfl rfl, hprice,
    hfollows⟩

end Pool

end BondingPool
