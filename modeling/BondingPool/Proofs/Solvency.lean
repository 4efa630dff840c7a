import Mathlib.Algebra.Order.Archimedean.Basic
import BondingPool.Proofs.Run

/-!
# Solvency

A collateral covers a position that costs no more than it. Buys and sells keep every position covered
that was covered before, moved by the tokens that changed hands; an oversized sell does so for whole
positions only, since it is charged whole tokens. So a pool that starts empty can always take back what
it sold, and no run of trades that leaves the traders without tokens leaves them with collateral.
-/

namespace BondingPool

namespace PriceLine

variable {line : PriceLine} {R B a : ℕ} {f : Fill} {y z : ℚ}

def Covers (line : PriceLine) (y collateral : ℚ) : Prop := y < 0 ∨ line.cost y ≤ collateral

theorem covers_of_nonpos (line : PriceLine) (hy : y ≤ 0) (hz : 0 ≤ z) : line.Covers y z := by
  rcases hy.lt_or_eq with hlt | rfl
  · exact Or.inl hlt
  · exact Or.inr (by rwa [cost_zero])

theorem Covers.le {c : ℚ} (h : line.Covers y c) (hz : 0 ≤ z) (hc : c ≤ line.cost z) : y ≤ z := by
  rcases h with hy | hy
  · exact hy.le.trans hz
  · exact line.le_of_cost_le_cost hz (hy.trans hc)

theorem Covers.of_le {c : ℚ} (hyz : y ≤ z) (hc : line.cost z ≤ c) : line.Covers y c := by
  by_cases hy : y < 0
  · exact Or.inl hy
  · exact Or.inr ((line.cost_le_cost (not_lt.mp hy) hyz).trans hc)

theorem Covers.buy (h : line.swap .buy R B a = .ok f) (hy : line.Covers y R) :
    line.Covers (y + f.received) (R + f.paid) := by
  obtain ⟨-, -, -, -, -, z, hz, hcover, hstand⟩ := swap_buy_bounds h
  have hle := hy.le hz hcover
  exact Covers.of_le (by linarith) hstand

theorem Covers.sell (h : line.swap .sell R B a = .ok f) (hy : line.Covers y R)
    (hwhole : f.capped = false ∨ ∃ n : ℤ, y = n) :
    line.Covers (y - f.paid) (R - f.received) := by
  obtain ⟨-, -, -, -, -, z, hz, hcover, hcase⟩ := swap_sell_bounds h
  have hle := hy.le hz hcover
  rcases hcase with ⟨-, hpaid, -, hkeep⟩ | ⟨hcapped, -, hpaid, hreceived⟩
  · rw [hpaid]
    push_cast
    exact Covers.of_le (by linarith) hkeep
  · obtain ⟨n, rfl⟩ : ∃ n : ℤ, y = n := hwhole.resolve_left (by simp [hcapped])
    have hn : n ≤ ⌊z⌋ := Int.le_floor.mpr hle
    rw [hpaid, hreceived]
    apply covers_of_nonpos
    · exact_mod_cast Int.sub_nonpos_of_le hn
    · simp

theorem Covers.not_capped (h : line.swap .sell R B a = .ok f) (hy : line.Covers y R) (ha : a ≤ y) :
    f.capped = false ∧ f.paid = a := by
  obtain ⟨-, -, -, -, -, z, hz, hcover, hcase⟩ := swap_sell_bounds h
  rcases hcase with ⟨hcapped, hpaid, -⟩ | ⟨-, hlt, -⟩
  · exact ⟨hcapped, hpaid⟩
  · exact absurd (ha.trans (hy.le hz hcover)) (not_le.mpr hlt)

end PriceLine

namespace Trade

variable {t : Trade} {next : Pool} {y : ℚ}

/-- A trade that may move the position `y`: an oversized sell takes whole tokens from whole
positions only. -/
def Moves (t : Trade) (y : ℚ) : Prop :=
  t.offer.direction = .sell → t.fill.capped = false ∨ ∃ n : ℤ, y = n

theorem Leaves.covers (h : t.Leaves next) (hmoves : t.Moves y)
    (hy : t.before.curve.line.Covers y t.before.collateral.val) :
    next.curve.line.Covers (y + t.before.bonded.val - next.bonded.val) next.collateral.val := by
  rw [h.swap.1]
  cases hd : t.offer.direction with
  | buy =>
    obtain ⟨offered, -, hswap, -⟩ := h.buy hd
    obtain ⟨hc, hb⟩ := h.balances_of_buy hd
    have he : y + t.before.bonded.val - next.bonded.val = y + t.fill.received := by linarith
    rw [he, hc]
    exact hy.buy hswap
  | sell =>
    obtain ⟨offered, -, hswap, -⟩ := h.sell hd
    obtain ⟨hc, hb⟩ := h.balances_of_sell hd
    have he : y + t.before.bonded.val - next.bonded.val = y - t.fill.paid := by linarith
    rw [he, hc]
    exact hy.sell hswap (hmoves hd)

end Trade

namespace Pool

variable {start pool next last : Pool} {x : ℚ} {t : Trade} {offers : List Offer}
  {trades : List Trade}

/-- What trades keep of a position `x` that was covered at the start: it is covered where the tokens
that changed hands since then have moved it. -/
structure Keeps (start : Pool) (x : ℚ) (pool : Pool) : Prop where
  curve_eq : pool.curve = start.curve
  covers : pool.curve.line.Covers (x + start.bonded.val - pool.bonded.val) pool.collateral.val

theorem Keeps.refl (hx : start.curve.line.Covers x start.collateral.val) : start.Keeps x start where
  curve_eq := rfl
  covers := by rwa [add_sub_cancel_right]

theorem Keeps.step (h : start.Keeps x t.before) (hleaves : t.Leaves next) (hmoves : t.Moves x) :
    start.Keeps x next where
  curve_eq := hleaves.swap.1.trans h.curve_eq
  covers := by
    have hmoved : t.Moves (x + start.bonded.val - t.before.bonded.val) := by
      intro hd
      refine (hmoves hd).imp_right fun ⟨n, hn⟩ => ⟨n + start.bonded.val - t.before.bonded.val, ?_⟩
      rw [hn]
      push_cast
      rfl
    have hcovers := hleaves.covers hmoved h.covers
    rwa [sub_add_cancel] at hcovers

theorem run_keeps (h : start.run offers = .ok (trades, last)) (hmoves : ∀ t ∈ trades, t.Moves x)
    (hx : start.curve.line.Covers x start.collateral.val) :
    start.Keeps x last ∧ ∀ t ∈ trades, start.Keeps x t.before ∧ ∃ next, t.Leaves next :=
  run_preserves (fun _ _ hP hQ hleaves => hP.step hleaves hQ) h hmoves (.refl hx)

/-- Traders who hold no fewer tokens than at the start cannot have taken collateral out, whatever
position they started from and however they traded. -/
theorem run_no_gain (h : start.run offers = .ok (trades, last))
    (hwhole : ∀ t ∈ trades, t.offer.direction = .sell → t.fill.capped = false) :
    (∀ x : ℚ, 0 ≤ x → start.curve.line.cost x ≤ start.collateral.val →
      x + (start.bonded.val - last.bonded.val) < 0 ∨
        start.curve.line.cost (x + (start.bonded.val - last.bonded.val)) ≤ last.collateral.val) ∧
    (last.bonded.val ≤ start.bonded.val → start.collateral.val ≤ last.collateral.val) := by
  have hkeeps (x : ℚ) (hx : start.curve.line.cost x ≤ start.collateral.val) :
      start.curve.line.Covers (x + start.bonded.val - last.bonded.val) last.collateral.val := by
    have hmoves : ∀ t ∈ trades, t.Moves x := fun t ht hd => Or.inl (hwhole t ht hd)
    obtain ⟨hlast, -⟩ := run_keeps h hmoves (Or.inr hx)
    have hcovers := hlast.covers
    rwa [hlast.curve_eq] at hcovers
  constructor
  · intro x _ hx
    rw [← add_sub_assoc]
    exact hkeeps x hx
  · intro hbonded
    by_contra hlost
    have hlost' : (last.collateral.val : ℚ) < start.collateral.val := by
      exact_mod_cast not_le.mp hlost
    -- a position covered before and costing more than what is left would not be covered after
    obtain ⟨x, hx, hmore, hcovered⟩ :=
      start.curve.line.exists_cost_between (Nat.cast_nonneg _) hlost'
    have hsub : (last.bonded.val : ℚ) ≤ start.bonded.val := by exact_mod_cast hbonded
    rcases hkeeps x hcovered with hneg | hle
    · linarith
    · have hmono := start.curve.line.cost_le_cost hx
        (by linarith : x ≤ x + start.bonded.val - last.bonded.val)
      linarith

theorem run_no_gain_sample :
    ∃ trades last, (Pool.mk Genesis.sample.curve ⟨50000000000, by decide⟩ ⟨1000000, by decide⟩).run
        [⟨.sell, 500000, 0⟩, ⟨.buy, 30000000, 0⟩] = .ok (trades, last) ∧
      last.bonded.val ≤ 1000000 ∧ 50000000000 ≤ last.collateral.val := by
  obtain ⟨trades, last, h, hbonded, hwhole⟩ : ∃ trades last,
      (Pool.mk Genesis.sample.curve ⟨50000000000, by decide⟩ ⟨1000000, by decide⟩).run
        [⟨.sell, 500000, 0⟩, ⟨.buy, 30000000, 0⟩] = .ok (trades, last) ∧
      last.bonded.val ≤ 1000000 ∧
      ∀ t ∈ trades, t.offer.direction = .sell → t.fill.capped = false := by
    refine ⟨_, _, rfl, ?_, ?_⟩ <;> decide +kernel
  exact ⟨trades, last, h, hbonded, (run_no_gain h hwhole).2 hbonded⟩

def outstanding (pool : Pool) (supply : Word) : ℤ := supply.val - pool.bonded.val

end Pool

namespace Genesis

variable {g : Genesis} {pool next last : Pool} {t : Trade} {offers : List Offer}
  {trades : List Trade}

theorem covers_zero (g : Genesis) : g.pool.curve.line.Covers 0 g.pool.collateral.val :=
  PriceLine.covers_of_nonpos _ le_rfl (Nat.cast_nonneg _)

theorem moves_zero (t : Trade) : t.Moves 0 := fun _ => Or.inr ⟨0, Int.cast_zero.symm⟩

theorem run_keeps (h : g.pool.run offers = .ok (trades, last)) :
    g.pool.Keeps 0 last ∧ ∀ t ∈ trades, g.pool.Keeps 0 t.before ∧ ∃ next, t.Leaves next :=
  Pool.run_keeps h (fun t _ => moves_zero t) g.covers_zero

theorem covers_outstanding (h : g.pool.Keeps 0 pool) :
    g.line.Covers (pool.outstanding g.supply : ℤ) pool.collateral.val := by
  have hcovers := h.covers
  rw [h.curve_eq, zero_add] at hcovers
  have he : ((pool.outstanding g.supply : ℤ) : ℚ) = g.pool.bonded.val - pool.bonded.val := by
    rw [Pool.outstanding]
    push_cast
    rfl
  rwa [he]

theorem not_capped (hkeeps : g.pool.Keeps 0 t.before) (hleaves : t.Leaves next)
    (hd : t.offer.direction = .sell) (hamount : t.offer.amount ≤ t.before.outstanding g.supply) :
    t.fill.capped = false ∧ t.fill.paid = t.offer.amount := by
  obtain ⟨offered, hoffered, hswap, -⟩ := hleaves.sell hd
  have hcovers := covers_outstanding hkeeps
  rw [hoffered] at hamount ⊢
  rw [hkeeps.curve_eq] at hswap
  exact hcovers.not_capped hswap (by exact_mod_cast hamount)

/-- A pool that holds no more than the supply of its genesis and keeps the rest covered. -/
structure Backed (g : Genesis) (pool : Pool) : Prop where
  keeps : g.pool.Keeps 0 pool
  bonded_le : pool.bonded.val ≤ g.supply.val

theorem Backed.step (h : g.Backed t.before)
    (hsell : t.offer.direction = .sell → t.offer.amount ≤ t.before.outstanding g.supply)
    (hleaves : t.Leaves next) : g.Backed next where
  keeps := h.keeps.step hleaves (moves_zero t)
  bonded_le := by
    have hle := h.bonded_le
    cases hd : t.offer.direction with
    | buy =>
      obtain ⟨offered, -, hswap, -, hbonded⟩ := hleaves.buy hd
      obtain ⟨-, -, -, hreceived, -⟩ := PriceLine.swap_buy_bounds hswap
      omega
    | sell =>
      obtain ⟨offered, -, -, -, hbonded⟩ := hleaves.sell hd
      obtain ⟨-, hpaid⟩ := not_capped h.keeps hleaves hd (hsell hd)
      have hamount := hsell hd
      rw [Pool.outstanding] at hamount
      omega

theorem run_backed (h : g.pool.run offers = .ok (trades, last))
    (hsell : ∀ t ∈ trades, t.offer.direction = .sell →
      t.offer.amount ≤ t.before.outstanding g.supply) :
    g.Backed last ∧ ∀ t ∈ trades, g.Backed t.before ∧ ∃ next, t.Leaves next :=
  Pool.run_preserves (fun _ _ hP hQ hleaves => hP.step hQ hleaves) h hsell
    ⟨.refl g.covers_zero, le_rfl⟩

/-- A pool that trades from its genesis can always take back what it sold. -/
theorem run_solvent (h : g.pool.run offers = .ok (trades, last)) :
    (last.outstanding g.supply ≤ 0 ∨
      g.line.cost (last.outstanding g.supply : ℤ) ≤ last.collateral.val) ∧
    ((∀ t ∈ trades, t.offer.direction = .sell →
        t.offer.amount ≤ t.before.outstanding g.supply) →
      (∀ t ∈ trades, t.offer.direction = .sell →
        t.fill.capped = false ∧ t.fill.paid = t.offer.amount) ∧
      last.bonded.val ≤ g.supply.val ∧ ∀ t ∈ trades, t.before.bonded.val ≤ g.supply.val) := by
  obtain ⟨hlast, hbefore⟩ := run_keeps h
  constructor
  · exact (covers_outstanding hlast).imp_left fun hneg => by exact_mod_cast hneg.le
  · intro hsell
    obtain ⟨hbacked, hbackedBefore⟩ := run_backed h hsell
    refine ⟨fun t ht hd => ?_, hbacked.bonded_le, fun t ht => (hbackedBefore t ht).1.bonded_le⟩
    obtain ⟨hkeeps, next, hleaves⟩ := hbefore t ht
    exact not_capped hkeeps hleaves hd (hsell t ht hd)

theorem sample_run :
    ∃ trades last, sample.pool.run
        [⟨.buy, 240000000000, 0⟩, ⟨.sell, 3000000000, 0⟩, ⟨.buy, 5000, 0⟩] = .ok (trades, last) ∧
      0 < last.outstanding sample.supply ∧
      ∀ t ∈ trades, t.offer.direction = .sell →
        t.offer.amount ≤ t.before.outstanding sample.supply := by
  refine ⟨_, _, rfl, ?_, ?_⟩ <;> decide +kernel

theorem run_solvent_sample :
    ∃ trades last, sample.pool.run
        [⟨.buy, 240000000000, 0⟩, ⟨.sell, 3000000000, 0⟩, ⟨.buy, 5000, 0⟩] = .ok (trades, last) ∧
      sample.line.cost (last.outstanding sample.supply : ℤ) ≤ last.collateral.val ∧
      (∀ t ∈ trades, t.offer.direction = .sell → t.fill.capped = false) ∧
      last.bonded.val ≤ 50000000000 := by
  obtain ⟨trades, last, h, hpos, hsell⟩ := sample_run
  obtain ⟨hcost, hwhole⟩ := run_solvent h
  obtain ⟨hsells, hbonded, -⟩ := hwhole hsell
  exact ⟨trades, last, h, hcost.resolve_left (not_le.mpr hpos), fun t ht hd => (hsells t ht hd).1,
    hbonded⟩

end Genesis

end BondingPool
