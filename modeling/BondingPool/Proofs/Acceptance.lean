import BondingPool.Proofs.Comparison
import BondingPool.Proofs.Settlement

/-!
# What an accepted offer is answered

An accepted fill charges no more than was offered and hands out no more than the pool has, something of each, and
at least what the trader asked for. It takes the offer whole or hands out all there is; a sell is cut short only
where it goes past the position, and is charged no more than the position then. So settling a fill never overdraws
a pool, and what a trader asks for decides whether there is an answer, not what it is.
-/

namespace BondingPool

theorem PriceLine.swap_buy_served {line : PriceLine} {R B a : Word} {f : Fill}
    (h : line.swap .buy R.val B.val a.val = .ok f) :
    (f.capped = false → f.paid = a.val) ∧ (f.capped = true → f.received = B.val) := by
  obtain ⟨ha, -⟩ := swap_buy_received h
  obtain ⟨demand, -, ⟨-, -, rfl⟩ | ⟨-, -, price, -, -, -, rfl⟩⟩ := (swap_buy_eq_ok_iff ha).mp h
  · exact ⟨fun _ => rfl, nofun⟩
  · exact ⟨nofun, fun _ => rfl⟩

namespace Pool

variable {pool next : Pool} {direction : Direction} {offered : ℤ} {floor : Word} {fill : Fill}

/-- What the fill of an offer with a floor keeps to. -/
structure Serves (pool : Pool) (direction : Direction) (offered floor : ℤ) (fill : Fill) : Prop where
  direction_eq : fill.direction = direction
  paid_pos : 0 < fill.paid
  paid_le : fill.paid ≤ offered
  received_pos : 0 < fill.received
  received_le : fill.received ≤ (pool.reserve direction).val
  floor_le : floor ≤ fill.received
  whole : fill.capped = false → fill.paid = offered
  emptied : fill.capped = true → fill.received = (pool.reserve direction).val
  past : fill.capped = true → direction = .sell →
    ∃ b, pool.sold = .ok b ∧ fill.paid ≤ b.value ∧ b.value < offered

theorem serves_of_buy {a : Word}
    (h : pool.curve.line.swap .buy pool.collateral.val pool.bonded.val a.val = .ok fill)
    (hfloor : floor.val ≤ fill.received) : pool.Serves .buy a.val floor.val fill := by
  obtain ⟨hdirection, hpaid, hle, hreceived, hsupply, -⟩ := PriceLine.swap_buy_bounds h
  obtain ⟨hwhole, hall⟩ := PriceLine.swap_buy_served h
  exact ⟨hdirection, hpaid, hle, hreceived, hsupply, hfloor, hwhole, hall, fun _ => nofun⟩

theorem serves_of_sell {a : Word}
    (h : pool.curve.line.swap .sell pool.collateral.val pool.bonded.val a.val = .ok fill)
    (hfloor : floor.val ≤ fill.received) : pool.Serves .sell a.val floor.val fill := by
  obtain ⟨hdirection, hpaid, hle, hreceived, hheld, held, sold, hraw, hsold, -, hwhole, hpast⟩ :=
    PriceLine.swap_sell_position h
  have hposition : pool.sold = .ok sold := Curve.sold_eq_ok_iff.mpr ⟨held, hraw, hsold⟩
  refine ⟨hdirection, hpaid, hle, hreceived, hheld, hfloor, fun hcapped => (hwhole hcapped).1,
    fun hcapped => (hpast hcapped).2.2, fun hcapped _ => ?_⟩
  obtain ⟨hoffer, hcharge, -⟩ := hpast hcapped
  have hcharged : (fill.paid : ℚ) ≤ sold.value := by
    rw [hcharge]
    exact_mod_cast sold.toInteger_down_le_value
  exact ⟨sold, hposition, hcharged, by exact_mod_cast hoffer⟩

theorem serves_of_quote {floor : ℤ} (h : pool.quote direction offered floor = .ok fill) :
    pool.Serves direction offered floor fill := by
  obtain ⟨a, least, rfl, rfl, htrade⟩ := Curve.quote_eq_ok_iff.mp h
  obtain ⟨-, -, hswap, hfloor⟩ := Curve.trade_eq_ok_iff.mp htrade
  cases direction with
  | buy => exact serves_of_buy hswap hfloor
  | sell => exact serves_of_sell hswap hfloor

theorem settle_ne_overdrawn {floor collateral bonded : ℤ}
    (h : pool.quote direction offered floor = .ok fill) :
    pool.settle fill ≠ .error (.calculation (.overdrawn collateral bonded)) := by
  intro hsettle
  obtain ⟨-, hcause⟩ := (settle_eq_error_iff h).mp hsettle
  cases hcause

/-- Accepted fills keep to the offer, to the floor and to what the pool has, and can be paid out. A floor filters
the answers and changes none. -/
theorem quote_serves (pool : Pool) :
    (∀ direction offered floor fill, pool.quote direction offered floor = .ok fill →
      pool.Serves direction offered floor fill ∧ ∀ collateral bonded,
        pool.settle fill ≠ .error (.calculation (.overdrawn collateral bonded))) ∧
    ∀ direction offered (floor : Word) fill,
      (pool.quote direction offered floor.val = .ok fill ↔
        pool.quote direction offered 0 = .ok fill ∧ floor.val ≤ fill.received) ∧
      ∀ next, pool.trade direction offered floor.val = .ok (fill, next) ↔
        pool.trade direction offered 0 = .ok (fill, next) ∧ floor.val ≤ fill.received := by
  refine ⟨fun _ _ _ _ hquote => ⟨serves_of_quote hquote, fun _ _ => settle_ne_overdrawn hquote⟩,
    fun direction offered floor fill => ⟨Curve.quote_floor_iff, fun next => ?_⟩⟩
  rw [trade_eq_ok_iff, trade_eq_ok_iff, quote, Curve.quote_floor_iff]
  exact and_right_comm

theorem quote_serves_sample :
    (Pool.mk Genesis.sample.curve ⟨51, by decide⟩ .zero).quote .sell 2 51 =
        .ok ⟨.sell, 1, 51, true⟩ ∧
      (Pool.mk Genesis.sample.curve ⟨51, by decide⟩ .zero).Serves .sell 2 51
        ⟨.sell, 1, 51, true⟩ ∧
      (∃ b, (Pool.mk Genesis.sample.curve ⟨51, by decide⟩ .zero).sold = .ok b ∧
        ((1 : ℤ) : ℚ) ≤ b.value ∧ b.value < ((2 : ℤ) : ℚ)) ∧
      ¬ (Pool.mk Genesis.sample.curve ⟨51, by decide⟩ .zero).quote .sell 2 52 =
        .ok ⟨.sell, 1, 51, true⟩ := by
  have hquote : (Pool.mk Genesis.sample.curve ⟨51, by decide⟩ .zero).quote .sell 2 51 =
      .ok ⟨.sell, 1, 51, true⟩ := by
    decide
  obtain ⟨haccepted, hfloor⟩ :=
    quote_serves (Pool.mk Genesis.sample.curve ⟨51, by decide⟩ .zero)
  obtain ⟨hserves, -⟩ := haccepted _ _ _ _ hquote
  refine ⟨hquote, hserves, hserves.past rfl rfl, fun h => ?_⟩
  obtain ⟨-, hless⟩ := (hfloor .sell 2 ⟨52, by decide⟩ _).1.mp h
  exact absurd hless (by decide)

end Pool

end BondingPool
