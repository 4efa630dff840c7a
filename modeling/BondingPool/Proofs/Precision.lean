import BondingPool.Proofs.Magnitude

/-!
# Where precision suffices

Each term of a divisor is rounded to the smallest unit. On a line that starts at a price of one or more the root
does not magnify this, so the divisors of a position differ by three units at most and the position itself is
known to a few units. Where the terms of a line are below precision, a divisor rounded up can jump by more than
the collateral under it grows, and the position of more collateral is then found before that of less.
-/

namespace BondingPool

namespace PriceLine

variable {line : PriceLine} {c k m n : ℕ} {r : Rounding}

/-! ### Positions rounded up and down -/

theorem radicandRaw_up_le (line : PriceLine) (n : ℕ) :
    line.radicandRaw n .up ≤ line.radicandRaw n .down + 2 := by
  have hsquare := divRounded_up_le_succ (line.base.num.val * line.base.num.val * scale)
    (line.base.den.val * line.base.den.val)
  have hgrowth := divRounded_up_le_succ (n * (2 * line.slope.num.val)) line.slope.den.val
  rw [radicandRaw, radicandRaw]
  omega

theorem rootRaw_up_le (h : scale ≤ line.rootRaw n .down) :
    line.rootRaw n .up ≤ line.rootRaw n .down + 2 := by
  have hfloor : line.radicandRaw n .down * scale <
      (line.rootRaw n .down + 1) * (line.rootRaw n .down + 1) := Nat.lt_succ_sqrt _
  have hceil := Nat.mul_le_mul_right scale (line.radicandRaw_up_le n)
  apply rootRounded_up_le_iff.mpr
  linarith

theorem le_baseRaw (h : k * line.base.den.val ≤ line.base.num.val) (r : Rounding) :
    k * scale ≤ line.baseRaw r := by
  apply le_divRounded r line.base.den_pos
  rw [mul_right_comm]
  exact Nat.mul_le_mul_right scale h

theorem le_base_square (h : k * line.base.den.val ≤ line.base.num.val) (r : Rounding) :
    k * k * scale ≤ divRounded r (line.base.num.val * line.base.num.val * scale)
      (line.base.den.val * line.base.den.val) := by
  apply le_divRounded r (Nat.mul_pos line.base.den_pos line.base.den_pos)
  calc k * k * scale * (line.base.den.val * line.base.den.val)
      = k * line.base.den.val * (k * line.base.den.val) * scale := by ring
    _ ≤ line.base.num.val * line.base.num.val * scale := by gcongr

theorem le_rootRaw (h : k * line.base.den.val ≤ line.base.num.val) (n : ℕ) (r : Rounding) :
    k * scale ≤ line.rootRaw n r := by
  apply le_rootRounded
  calc k * scale * (k * scale) = k * k * scale * scale := by ring
    _ ≤ line.radicandRaw n r * scale :=
        Nat.mul_le_mul_right scale ((le_base_square h r).trans (Nat.le_add_right _ _))

theorem le_divisorRaw (h : k * line.base.den.val ≤ line.base.num.val) (n : ℕ) (r : Rounding) :
    2 * (k * scale) ≤ line.divisorRaw n r := by
  have hbase := le_baseRaw h r
  have hroot := le_rootRaw h n r
  rw [divisorRaw]
  omega

theorem divisorRaw_up_le (h : line.base.den.val ≤ line.base.num.val) (n : ℕ) :
    line.divisorRaw n .up ≤ line.divisorRaw n .down + 3 := by
  have hone : 1 * line.base.den.val ≤ line.base.num.val := (one_mul _).trans_le h
  have hroot := rootRaw_up_le ((one_mul scale).symm.trans_le (le_rootRaw hone n .down))
  have hbase : line.baseRaw .up ≤ line.baseRaw .down + 1 := divRounded_up_le_succ _ _
  rw [divisorRaw, divisorRaw]
  omega

theorem divisorRaw_pos_of_base (h : line.base.den.val ≤ line.base.num.val) (n : ℕ) (r : Rounding) :
    0 < line.divisorRaw n r := by
  have hone : 1 * line.base.den.val ≤ line.base.num.val := (one_mul _).trans_le h
  have hle := le_divisorRaw hone n r
  have hscale := scale_pos
  omega

theorem soldRaw_up_lt {L q : ℕ} (h : line.base.den.val ≤ line.base.num.val) (hpos : 0 < L)
    (hL : L ≤ line.divisorRaw n .up * line.divisorRaw n .down * q) :
    line.soldRaw n .up * L < (line.soldRaw n .down + 2) * L + 6 * (n * scale) * q := by
  have hgap := divisorRaw_up_le h n
  have hceil : line.soldRaw n .up * line.divisorRaw n .down <
      n * 2 * scale + line.divisorRaw n .down := divRounded_up_mul_lt _ (divisorRaw_pos_of_base h n _)
  have hfloor : n * 2 * scale < (line.soldRaw n .down + 1) * line.divisorRaw n .up :=
    lt_divRounded_down_succ_mul _ (divisorRaw_pos_of_base h n _)
  generalize line.soldRaw n .up = u, line.soldRaw n .down = d at hceil hfloor ⊢
  generalize line.divisorRaw n .up = U, line.divisorRaw n .down = D at hL hgap hceil hfloor
  -- The rounding of the two quotients is two units; only what goes beyond comes from the divisors.
  by_cases hnear : u ≤ d + 1
  · have hmul := Nat.mul_le_mul_right L hnear
    have hrest := Nat.zero_le (6 * (n * scale) * q)
    linarith
  · obtain ⟨e, rfl⟩ : ∃ e, u = d + 1 + e + 1 := ⟨u - d - 2, by omega⟩
    have hquot : (d + 1 + e) * D < n * 2 * scale := by linarith
    have hjump : e * U ≤ 3 * (d + 1 + e) := by
      have hmul := Nat.mul_le_mul_left (d + 1 + e) hgap
      linarith
    have hq : 0 < q := by
      by_contra h0
      simp [Nat.eq_zero_of_not_pos h0] at hL
      omega
    have hbeyond : e * L < 6 * (n * scale) * q := by
      calc e * L ≤ e * (U * D * q) := Nat.mul_le_mul_left e hL
        _ = e * U * D * q := by ring
        _ ≤ 3 * (d + 1 + e) * D * q := by gcongr
        _ = 3 * ((d + 1 + e) * D) * q := by ring
        _ < 3 * (n * 2 * scale) * q := by gcongr
        _ = 6 * (n * scale) * q := by ring
    linarith

theorem soldRaw_up_lt_of_base (hk : 0 < k) (h : k * line.base.den.val ≤ line.base.num.val) (n : ℕ) :
    2 * (k * k) * scale * line.soldRaw n .up <
      2 * (k * k) * scale * (line.soldRaw n .down + 2) + 3 * n := by
  have hstart : line.base.den.val ≤ line.base.num.val := (Nat.le_mul_of_pos_left _ hk).trans h
  have hscale := scale_pos
  have hpos : 0 < 2 * (k * scale) * (2 * (k * scale)) := by positivity
  have hL := Nat.mul_le_mul (le_divisorRaw h n .up) (le_divisorRaw h n .down)
  have hlt := soldRaw_up_lt hstart hpos (hL.trans (Nat.mul_one _).ge)
  apply Nat.lt_of_mul_lt_mul_left (a := 2 * scale)
  linarith

theorem rootRaw_down_le_up (line : PriceLine) (n : ℕ) :
    line.rootRaw n .down ≤ line.rootRaw n .up := by
  have hsquare : line.radicandRaw n .down ≤ line.radicandRaw n .up :=
    Nat.add_le_add (divRounded_down_le_up _ _) (divRounded_down_le_up _ _)
  apply le_rootRounded
  exact (le_rootRounded_down_iff.mp le_rfl).trans (Nat.mul_le_mul_right scale hsquare)

theorem growth_le_radicandRaw_down (h : line.base.den.val ≤ line.base.num.val) (n : ℕ) :
    n * (2 * line.slope.num.val) ≤ line.radicandRaw n .down * line.slope.den.val := by
  have hone : 1 * line.base.den.val ≤ line.base.num.val := (one_mul _).trans_le h
  have hscale := scale_pos
  have hlt := lt_divRounded_down_succ_mul (n * (2 * line.slope.num.val)) line.slope.den_pos
  have hbase := le_base_square hone .down
  refine hlt.le.trans (Nat.mul_le_mul_right _ ?_)
  rw [radicandRaw]
  omega

theorem growth_le_divisorRaw (h : line.base.den.val ≤ line.base.num.val) (n : ℕ) :
    n * (2 * line.slope.num.val) * scale ≤
      line.divisorRaw n .up * line.divisorRaw n .down * line.slope.den.val := by
  have hone : 1 * line.base.den.val ≤ line.base.num.val := (one_mul _).trans_le h
  have hscale := scale_pos
  have hroot := line.rootRaw_down_le_up n
  have hfloor : line.radicandRaw n .down * scale <
      (line.rootRaw n .down + 1) * (line.rootRaw n .down + 1) := Nat.lt_succ_sqrt _
  have hgrowth := growth_le_radicandRaw_down h n
  have hup : line.rootRaw n .down + 1 ≤ line.divisorRaw n .up := by
    have hbase := le_baseRaw hone .up
    rw [divisorRaw]
    omega
  have hdown : line.rootRaw n .down + 1 ≤ line.divisorRaw n .down := by
    have hbase := le_baseRaw hone .down
    rw [divisorRaw]
    omega
  calc n * (2 * line.slope.num.val) * scale
      ≤ line.radicandRaw n .down * line.slope.den.val * scale := Nat.mul_le_mul_right scale hgrowth
    _ = line.radicandRaw n .down * scale * line.slope.den.val := by ring
    _ ≤ line.divisorRaw n .up * line.divisorRaw n .down * line.slope.den.val :=
        Nat.mul_le_mul_right _ (hfloor.le.trans (Nat.mul_le_mul hup hdown))

theorem soldRaw_up_lt_of_slope (h : line.base.den.val ≤ line.base.num.val)
    (hs : 0 < line.slope.num.val) (n : ℕ) :
    line.slope.num.val * line.soldRaw n .up <
      line.slope.num.val * (line.soldRaw n .down + 2) + 3 * line.slope.den.val := by
  rcases Nat.eq_zero_or_pos n with rfl | hn
  · have hzero : line.soldRaw 0 .up = 0 := by simp [soldRaw]
    rw [hzero, mul_zero]
    exact Nat.add_pos_right _ (Nat.mul_pos three_pos line.slope.den_pos)
  · have hpos : 0 < n * (2 * line.slope.num.val) * scale :=
      Nat.mul_pos (Nat.mul_pos hn (Nat.mul_pos Nat.two_pos hs)) scale_pos
    have hlt := soldRaw_up_lt h hpos (growth_le_divisorRaw h n)
    apply Nat.lt_of_mul_lt_mul_left (a := n * 2 * scale)
    linarith

/-- A line that starts at one or more and rises fast enough, or starts high enough, for the positions before and
after an offer to be known to less than a token, together. -/
def Locates (line : PriceLine) (collateral offered : ℕ) : Prop :=
  line.base.den.val ≤ line.base.num.val ∧
    (7 * line.slope.den.val ≤ line.slope.num.val * scale ∨
      4 * collateral + 2 * offered ≤
        scale * (line.base.num.val / line.base.den.val * (line.base.num.val / line.base.den.val)))

instance (line : PriceLine) (collateral offered : ℕ) : Decidable (line.Locates collateral offered) :=
  inferInstanceAs (Decidable (_ ∧ (_ ∨ _)))

theorem Locates.soldRaw_up_add_lt {a : ℕ} (h : line.Locates c a) :
    line.soldRaw (c * scale) .up + line.soldRaw ((c + a) * scale) .up <
      line.soldRaw (c * scale) .down + line.soldRaw ((c + a) * scale) .down + scale := by
  have hscale : 28 ≤ scale := by decide
  obtain ⟨hstart, hslope | hbase⟩ := h
  · have hpos : 0 < line.slope.num.val := by
      by_contra h0
      have hden := line.slope.den_pos
      rw [Nat.eq_zero_of_not_pos h0, Nat.zero_mul] at hslope
      omega
    have hbefore := soldRaw_up_lt_of_slope hstart hpos (c * scale)
    have hafter := soldRaw_up_lt_of_slope hstart hpos ((c + a) * scale)
    have hunit := Nat.mul_le_mul_left line.slope.num.val hscale
    apply Nat.lt_of_mul_lt_mul_left (a := line.slope.num.val)
    linarith
  · have hwhole := Nat.div_mul_le_self line.base.num.val line.base.den.val
    have hpos := Nat.div_pos hstart line.base.den_pos
    generalize line.base.num.val / line.base.den.val = k at hbase hwhole hpos
    have hbefore := soldRaw_up_lt_of_base hpos hwhole (c * scale)
    have hafter := soldRaw_up_lt_of_base hpos hwhole ((c + a) * scale)
    have hsum := Nat.mul_le_mul_right scale hbase
    have hunit := Nat.mul_le_mul_left (k * k * scale) hscale
    apply Nat.lt_of_mul_lt_mul_left (a := 2 * (k * k) * scale)
    linarith

/-! ### Positions of more and of less collateral -/

theorem radicandRaw_add_mul_le (line : PriceLine) (n m : ℕ) (r : Rounding) :
    line.radicandRaw (n + m) r * line.slope.den.val ≤
      line.radicandRaw n r * line.slope.den.val + m * (2 * line.slope.num.val) +
        line.slope.den.val := by
  have hden := line.slope.den_pos
  rw [radicandRaw, radicandRaw]
  cases r with
  | down =>
    have hmore := Nat.div_mul_le_self ((n + m) * (2 * line.slope.num.val)) line.slope.den.val
    have hless := (lt_divRounded_down_succ_mul (n * (2 * line.slope.num.val)) hden).le
    rw [← divRounded_down] at hmore
    linarith
  | up =>
    have hmore := (divRounded_up_mul_lt ((n + m) * (2 * line.slope.num.val)) hden).le
    have hless := (divRounded_up_le_iff hden).mp
      (le_refl (divRounded .up (n * (2 * line.slope.num.val)) line.slope.den.val))
    linarith

/-- A jump of the root by `k` from `s` on is paid for by the collateral that was added, but for one unit under the
root. -/
theorem jump_lt {s : ℕ} (hn : 0 < n)
    (hgrowth : n * (2 * line.slope.num.val) ≤ line.radicandRaw n r * line.slope.den.val)
    (hbefore : line.radicandRaw n r * scale ≤ s * s)
    (hafter : (s + k) * (s + k) ≤ line.radicandRaw (n + m) r * scale) :
    n * (2 * s * k) < m * (s * s) + n * scale := by
  have hden := line.slope.den_pos
  have hrise := line.radicandRaw_add_mul_le n m r
  generalize line.radicandRaw n r = Q, line.radicandRaw (n + m) r = Q' at *
  have hscaled : n * ((s + k) * (s + k)) * line.slope.den.val ≤
      (n * (s * s) + m * (s * s) + n * scale) * line.slope.den.val := by
    calc n * ((s + k) * (s + k)) * line.slope.den.val
        ≤ n * (Q' * scale) * line.slope.den.val := by gcongr
      _ = n * scale * (Q' * line.slope.den.val) := by ring
      _ ≤ n * scale * (Q * line.slope.den.val + m * (2 * line.slope.num.val) +
            line.slope.den.val) := by gcongr
      _ = n * (Q * scale) * line.slope.den.val + m * scale * (n * (2 * line.slope.num.val)) +
            n * scale * line.slope.den.val := by ring
      _ ≤ n * (Q * scale) * line.slope.den.val + m * scale * (Q * line.slope.den.val) +
            n * scale * line.slope.den.val := by gcongr
      _ = (n + m) * (Q * scale) * line.slope.den.val + n * scale * line.slope.den.val := by ring
      _ ≤ (n + m) * (s * s) * line.slope.den.val + n * scale * line.slope.den.val := by gcongr
      _ = (n * (s * s) + m * (s * s) + n * scale) * line.slope.den.val := by ring
  have hle := Nat.le_of_mul_le_mul_right hscaled hden
  have hexpand : n * ((s + k) * (s + k)) = n * (s * s) + n * (2 * s * k) + n * (k * k) := by ring
  rcases Nat.eq_zero_or_pos k with rfl | hk
  · have hunit := Nat.mul_pos hn scale_pos
    omega
  · have hsquare := Nat.mul_pos hn (Nat.mul_pos hk hk)
    omega

theorem exists_jump {e : ℕ}
    (h : (c + e) * line.divisorRaw (c * scale) r < c * line.divisorRaw ((c + e) * scale) r) :
    0 < c ∧ 0 < e ∧ ∃ k,
      line.rootRaw (c * scale + e * scale) r = line.rootRaw (c * scale) r + k + 1 ∧
        e * line.divisorRaw (c * scale) r < c * (k + 1) := by
  rw [Nat.add_mul c e scale, divisorRaw, divisorRaw] at h
  have hroot : line.rootRaw (c * scale) r < line.rootRaw (c * scale + e * scale) r := by
    apply Nat.lt_of_add_lt_add_left (n := line.baseRaw r)
    apply Nat.lt_of_mul_lt_mul_left (a := c)
    exact (Nat.mul_le_mul_right _ (Nat.le_add_right _ e)).trans_lt h
  obtain ⟨k, hk⟩ := Nat.exists_eq_add_of_lt hroot
  refine ⟨?_, ?_, k, hk, ?_⟩
  · by_contra h0
    simp [Nat.eq_zero_of_not_pos h0] at h
  · by_contra h0
    simp [Nat.eq_zero_of_not_pos h0] at hroot
  · rw [hk] at h
    rw [divisorRaw]
    linarith

theorem mul_divisorRaw_le {e : ℕ}
    (h : c * (scale + 2 * line.rootRaw (c * scale) .up) ≤
        line.rootRaw (c * scale) .up * (2 * line.baseRaw .up + line.rootRaw (c * scale) .up) ∨
      c ≤ line.divisorRaw (c * scale) .up ∧
        line.rootRaw (c * scale) .up * line.rootRaw (c * scale) .up + c * scale ≤
          2 * (c * line.rootRaw (c * scale) .up)) :
    c * line.divisorRaw ((c + e) * scale) .up ≤ (c + e) * line.divisorRaw (c * scale) .up := by
  by_contra hlt
  obtain ⟨hc, he, k, hk, hstep⟩ := exists_jump (Nat.not_le.mp hlt)
  have hafter : (line.rootRaw (c * scale) .up + k) * (line.rootRaw (c * scale) .up + k) <
      line.radicandRaw (c * scale + e * scale) .up * scale := by
    rw [← Nat.not_le, ← rootRounded_up_le_iff]
    exact Nat.not_le.mpr (by rw [rootRaw] at hk; omega)
  have hjump := jump_lt (Nat.mul_pos hc scale_pos) (line.growth_le_radicandRaw _)
    (line.radicandRaw_mul_scale_le _) hafter.le
  rw [divisorRaw] at h hstep
  generalize line.rootRaw (c * scale) .up = T, line.baseRaw .up = P at *
  -- a jump of the root by `k` is paid for by the collateral that was added
  have hshort : c * (2 * T * k) < e * (T * T) + c * scale := by
    apply Nat.lt_of_mul_lt_mul_left (a := scale)
    linarith
  rcases h with houtweighs | ⟨hunit, hlarge⟩
  · have htwice := Nat.mul_le_mul_left (2 * T) hstep.le
    have hcover := Nat.mul_le_mul_right (T * (2 * P + T)) he
    linarith
  · have hsteps : e ≤ k := by
      have hmul := (Nat.mul_le_mul_left e hunit).trans_lt hstep
      exact Nat.lt_succ_iff.mp (Nat.lt_of_mul_lt_mul_left (a := c) (by linarith))
    have hpaid := Nat.mul_le_mul_left (c * (2 * T)) hsteps
    have hmany := Nat.mul_le_mul_left e hlarge
    have hscale := Nat.mul_le_mul_right (c * scale) he
    linarith

/-- A divisor rounded down grows no faster than the collateral while it is at least twice as large: the root would
have to jump by three or more, and then the collateral pays for the jump. -/
theorem mul_divisorRaw_down_le {e : ℕ} (h : line.base.den.val ≤ line.base.num.val)
    (hc : 2 * c ≤ line.divisorRaw (c * scale) .down) :
    c * line.divisorRaw ((c + e) * scale) .down ≤ (c + e) * line.divisorRaw (c * scale) .down := by
  by_contra hlt
  obtain ⟨hpos, he, k, hk, hstep⟩ := exists_jump (Nat.not_le.mp hlt)
  have hone : 1 * line.base.den.val ≤ line.base.num.val := (one_mul _).trans_le h
  have hunit := le_rootRaw hone (c * scale) .down
  have hbase := le_baseRaw hone .down
  have hbefore : line.radicandRaw (c * scale) .down * scale ≤
      (line.rootRaw (c * scale) .down + 1) * (line.rootRaw (c * scale) .down + 1) :=
    (Nat.lt_succ_sqrt _).le
  have hafter : (line.rootRaw (c * scale) .down + 1 + k) * (line.rootRaw (c * scale) .down + 1 + k) ≤
      line.radicandRaw (c * scale + e * scale) .down * scale :=
    le_rootRounded_down_iff.mp (by rw [rootRaw] at hk; omega)
  have hjump := jump_lt (Nat.mul_pos hpos scale_pos) (growth_le_radicandRaw_down h _) hbefore hafter
  have hscale := scale_pos
  rw [divisorRaw] at hc hstep
  generalize line.rootRaw (c * scale) .down = T, line.baseRaw .down = P at *
  have hlarge : 2 < k + 1 := by
    apply Nat.lt_of_mul_lt_mul_left (a := c)
    have hmul := Nat.mul_le_mul_right (P + T) he
    linarith
  have hshort : c * (2 * k) < e * (T + 1) + c := by
    apply Nat.lt_of_mul_lt_mul_left (a := scale * (T + 1))
    have hmul := Nat.mul_le_mul_left (c * scale) (Nat.le_succ_of_le hunit)
    linarith
  have hroot : e * (T + 1) ≤ e * (P + T) := Nat.mul_le_mul_left e (by omega)
  have hcover := Nat.mul_le_mul_left c hlarge
  linarith

/-- The line is flat, or this collateral is small against the precision of its slope, or the line starts at one
or more and the collateral is small against its divisor. -/
def Resolves (line : PriceLine) (collateral : ℕ) : Prop :=
  line.slope.num.val = 0 ∨
    line.slope.den.val ≤ line.slope.num.val * scale ∧
      8 * collateral * line.slope.den.val ≤ line.slope.num.val * scale * scale ∨
    line.base.den.val ≤ line.base.num.val ∧
      collateral * (line.base.den.val * line.slope.den.val) ≤
        2 * scale * (line.base.num.val * line.slope.den.val +
          line.slope.num.val * scale * line.base.den.val)

instance (line : PriceLine) (collateral : ℕ) : Decidable (line.Resolves collateral) :=
  inferInstanceAs (Decidable (_ ∨ _ ∧ _ ∨ _ ∧ _))

theorem Resolves.of_le {d : ℕ} (h : line.Resolves d) (hle : c ≤ d) : line.Resolves c := by
  rcases h with hflat | ⟨hslope, hd⟩ | ⟨hbase, hd⟩
  · exact Or.inl hflat
  · refine Or.inr (Or.inl ⟨hslope, le_trans ?_ hd⟩)
    gcongr
  · exact Or.inr (Or.inr ⟨hbase, (Nat.mul_le_mul_right _ hle).trans hd⟩)

theorem root_outweighs_of_slope (hslope : line.slope.den.val ≤ line.slope.num.val * scale)
    (hc : 8 * c * line.slope.den.val ≤ line.slope.num.val * scale * scale) :
    c * (scale + 2 * line.rootRaw (c * scale) .up) ≤
      line.rootRaw (c * scale) .up * line.rootRaw (c * scale) .up := by
  have hden := line.slope.den_pos
  have hsquare := line.radicandRaw_mul_scale_le (c * scale)
  have hgrowth := line.growth_le_radicandRaw (c * scale)
  generalize line.rootRaw (c * scale) .up = T at hsquare ⊢
  generalize line.radicandRaw (c * scale) .up = Q at hsquare hgrowth
  have hroot : 2 * c * (line.slope.num.val * scale * scale) ≤ T * T * line.slope.den.val := by
    calc 2 * c * (line.slope.num.val * scale * scale)
        = c * scale * (2 * line.slope.num.val) * scale := by ring
      _ ≤ Q * line.slope.den.val * scale := Nat.mul_le_mul_right scale hgrowth
      _ = Q * scale * line.slope.den.val := by ring
      _ ≤ T * T * line.slope.den.val := Nat.mul_le_mul_right _ hsquare
  have hfirst : 2 * (c * scale) ≤ T * T := by
    apply Nat.le_of_mul_le_mul_right _ hden
    calc 2 * (c * scale) * line.slope.den.val = 2 * c * (line.slope.den.val * scale) := by ring
      _ ≤ 2 * c * (line.slope.num.val * scale * scale) := by gcongr
      _ ≤ T * T * line.slope.den.val := hroot
  have hsecond : 4 * c ≤ T := by
    apply Nat.mul_self_le_mul_self_iff.mp
    apply Nat.le_of_mul_le_mul_right _ hden
    calc 4 * c * (4 * c) * line.slope.den.val = 2 * c * (8 * c * line.slope.den.val) := by ring
      _ ≤ 2 * c * (line.slope.num.val * scale * scale) := Nat.mul_le_mul_left _ hc
      _ ≤ T * T * line.slope.den.val := hroot
  have hmul := Nat.mul_le_mul_right T hsecond
  linarith

theorem sq_add_lt_of_add_lt {x y z : ℕ} (h : y + x < z) : y * y + 2 * (z * x) < z * z + x * x := by
  obtain ⟨w, rfl⟩ := Nat.exists_eq_add_of_lt h
  nlinarith

theorem le_divisorRaw_of_base
    (h : c * (line.base.den.val * line.slope.den.val) ≤
      2 * scale * (line.base.num.val * line.slope.den.val +
        line.slope.num.val * scale * line.base.den.val)) :
    c ≤ line.divisorRaw (c * scale) .up := by
  have hbd := line.base.den_pos
  have hsd := line.slope.den_pos
  have hroot := line.radicandRaw_mul_scale_le (c * scale)
  have hbase : line.base.num.val * scale ≤ line.baseRaw .up * line.base.den.val :=
    (divRounded_up_le_iff hbd).mp le_rfl
  have hsquare : line.base.num.val * line.base.num.val * scale ≤
      divRounded .up (line.base.num.val * line.base.num.val * scale)
        (line.base.den.val * line.base.den.val) * (line.base.den.val * line.base.den.val) :=
    (divRounded_up_le_iff (Nat.mul_pos hbd hbd)).mp le_rfl
  have hgrowth : c * scale * (2 * line.slope.num.val) ≤
      divRounded .up (c * scale * (2 * line.slope.num.val)) line.slope.den.val *
        line.slope.den.val := (divRounded_up_le_iff hsd).mp le_rfl
  rw [radicandRaw] at hroot
  rw [divisorRaw]
  generalize line.rootRaw (c * scale) .up = T, line.baseRaw .up = P at *
  generalize divRounded .up (line.base.num.val * line.base.num.val * scale)
    (line.base.den.val * line.base.den.val) = C at *
  generalize divRounded .up (c * scale * (2 * line.slope.num.val)) line.slope.den.val = G at *
  generalize line.base.num.val = bn, line.base.den.val = bd, line.slope.num.val = sn,
    line.slope.den.val = sd at *
  by_contra hlt
  -- a root that falls short of the rest of the collateral would have too small a square
  have hshort : T * bd + bn * scale < c * bd := by
    have hmul := Nat.mul_lt_mul_of_pos_right (Nat.not_le.mp hlt) hbd
    linarith
  have hsmall := Nat.mul_lt_mul_of_pos_right (sq_add_lt_of_add_lt hshort) hsd
  have hlarge : bn * scale * (bn * scale) * sd + c * bd * (2 * scale * (sn * scale * bd)) ≤
      T * bd * (T * bd) * sd := by
    calc bn * scale * (bn * scale) * sd + c * bd * (2 * scale * (sn * scale * bd))
        = bn * bn * scale * (scale * sd) + c * scale * (2 * sn) * (scale * (bd * bd)) := by ring
      _ ≤ C * (bd * bd) * (scale * sd) + G * sd * (scale * (bd * bd)) := by gcongr
      _ = (C + G) * scale * (bd * bd * sd) := by ring
      _ ≤ T * T * (bd * bd * sd) := Nat.mul_le_mul_right _ hroot
      _ = T * bd * (T * bd) * sd := by ring
  have hmul := Nat.mul_le_mul_left (c * bd) h
  linarith

theorem outweighs_or {T P : ℕ} (hT : scale ≤ T) (hP : scale ≤ P) :
    c * (scale + 2 * T) ≤ T * (2 * P + T) ∨ T * T + c * scale ≤ 2 * (c * T) := by
  rcases Nat.lt_or_ge (2 * (c * T)) (T * T + c * scale) with hlt | hge
  · left
    have hroot : c ≤ T := by
      have hmul := Nat.mul_le_mul_left c hT
      exact (Nat.lt_of_mul_lt_mul_right (a := T) (by linarith)).le
    have hmul := Nat.mul_le_mul hroot hP
    linarith
  · exact Or.inr hge

theorem Resolves.mul_divisorRaw_le {e : ℕ} (h : line.Resolves c) :
    c * line.divisorRaw ((c + e) * scale) .up ≤ (c + e) * line.divisorRaw (c * scale) .up := by
  rcases h with hflat | ⟨hslope, hc⟩ | ⟨hbase, hc⟩
  · have hsame : line.divisorRaw ((c + e) * scale) .up = line.divisorRaw (c * scale) .up := by
      simp only [divisorRaw, rootRaw, radicandRaw, hflat, mul_zero, divRounded_zero]
    rw [hsame]
    exact Nat.mul_le_mul_right _ (Nat.le_add_right _ _)
  · apply PriceLine.mul_divisorRaw_le
    have hroot := root_outweighs_of_slope hslope hc
    exact Or.inl (hroot.trans (Nat.mul_le_mul_left _ (Nat.le_add_left _ _)))
  · apply PriceLine.mul_divisorRaw_le
    have hone : 1 * line.base.den.val ≤ line.base.num.val := (one_mul _).trans_le hbase
    have hT := (one_mul scale).ge.trans (le_rootRaw hone (c * scale) .up)
    have hP := (one_mul scale).ge.trans (le_baseRaw hone .up)
    exact (outweighs_or hT hP).imp_right fun hlarge => ⟨le_divisorRaw_of_base hc, hlarge⟩

theorem soldRaw_le_of_divisorRaw {e : ℕ} (hfrom : 0 < line.divisorRaw n r.opposite)
    (hto : 0 < line.divisorRaw e r.opposite)
    (h : n * line.divisorRaw e r.opposite ≤ e * line.divisorRaw n r.opposite) :
    line.soldRaw n r ≤ line.soldRaw e r := by
  apply divRounded_le_of_mul_le r hfrom hto
  have hscaled := Nat.mul_le_mul_left (2 * scale) h
  linarith

theorem Resolves.soldRaw_down_le {d : ℕ} (h : line.Resolves c) (hcd : c ≤ d) :
    line.soldRaw (c * scale) .down ≤ line.soldRaw (d * scale) .down := by
  rcases Nat.eq_zero_or_pos c with rfl | hpos
  · simp [soldRaw]
  obtain ⟨e, rfl⟩ := Nat.exists_eq_add_of_le hcd
  have hfrom := (Nat.mul_pos hpos scale_pos).ne'
  have hto := (Nat.mul_pos (Nat.add_pos_left hpos e) scale_pos).ne'
  apply soldRaw_le_of_divisorRaw (Nat.pos_of_ne_zero (line.divisorRaw_up_ne_zero hfrom))
    (Nat.pos_of_ne_zero (line.divisorRaw_up_ne_zero hto))
  have hscaled := Nat.mul_le_mul_left scale (h.mul_divisorRaw_le (e := e))
  rw [Rounding.opposite]
  linarith

theorem soldRaw_up_le {d : ℕ} (h : line.base.den.val ≤ line.base.num.val)
    (hc : 2 * c ≤ line.divisorRaw (c * scale) .down) (hcd : c ≤ d) :
    line.soldRaw (c * scale) .up ≤ line.soldRaw (d * scale) .up := by
  obtain ⟨e, rfl⟩ := Nat.exists_eq_add_of_le hcd
  apply soldRaw_le_of_divisorRaw (divisorRaw_pos_of_base h _ _) (divisorRaw_pos_of_base h _ _)
  have hscaled := Nat.mul_le_mul_left scale (mul_divisorRaw_down_le (e := e) h hc)
  rw [Rounding.opposite]
  linarith

end PriceLine

end BondingPool
