import Mathlib.Tactic.FieldSimp
import Mathlib.Tactic.Ring
import BondingPool.Fixed
import BondingPool.PriceLine.Position
import BondingPool.Proofs.Answer
import BondingPool.Proofs.Rounding

/-!
# What fixed-point operations answer

Each operation is the rounded exact result, refused only when that does not fit. The limits on wide
intermediates refuse nothing that would fit, and a root always exists. Seen as rationals, the results
lie toward the exact ones.
-/

namespace BondingPool

theorem maxRaw_mul_maxRaw_le : maxRaw * maxRaw ≤ maxWide := by decide

theorem maxRaw_mul_scale_le : maxRaw * scale ≤ maxWide := by decide

theorem maxRaw_mul_scale_lt : maxRaw * scale < 2 ^ 512 := by decide +kernel

namespace Fixed

variable {a b x y : Fixed} {r : Rounding} {p q : ℕ}

theorem fit_of_le {raw : ℕ} {failure : Failure} (h : raw ≤ maxRaw) :
    fit raw failure = .ok ⟨raw, h⟩ := dif_pos h

theorem ofInt_natCast (n : ℕ) : ofInt n = fit (n * scale) .rawTooLarge := by
  rw [ofInt, if_neg (Int.not_lt.mpr (Int.natCast_nonneg n)), Int.toNat_natCast]

theorem ofInt_eq_ok_iff {n : ℕ} : ofInt n = .ok x ↔ x.raw = n * scale := by
  rw [ofInt_natCast, fit_eq_ok_iff]

theorem ofFraction_eq (hq : 0 < q) (hp : p * scale ≤ maxRaw) :
    ofFraction p q r = fit (divRounded r (p * scale) q) .rawTooLarge := by
  unfold ofFraction
  rw [if_neg (by omega), if_neg (by omega), if_neg (by simpa using hp), Int.toNat_natCast,
    Int.toNat_natCast]

theorem mul_eq (a b : Fixed) (r : Rounding) :
    a.mul b r = fit (divRounded r (a.raw * b.raw) scale) .productTooLarge := by
  have hle := (Nat.mul_le_mul a.raw_le b.raw_le).trans maxRaw_mul_maxRaw_le
  rw [mul, if_neg (Nat.not_lt.mpr hle)]

theorem div_eq (a : Fixed) (hb : b.raw ≠ 0) (r : Rounding) :
    a.div b r = fit (divRounded r (a.raw * scale) b.raw) .quotientTooLarge := by
  have hle := (Nat.mul_le_mul_right scale a.raw_le).trans maxRaw_mul_scale_le
  rw [div, if_neg hb, if_neg (Nat.not_lt.mpr hle)]

theorem divRounded_mul_scale (x : Fixed) (p : ℕ) (r : Rounding) :
    divRounded r (x.raw * (p * scale)) scale = x.raw * p := by
  rw [← mul_assoc, divRounded_mul_self r _ scale_pos]

theorem timesRatio_eq (x : Fixed) (hp : p * scale ≤ maxRaw) (hq : q * scale ≤ maxRaw)
    (hpos : 0 < q) (r : Rounding) :
    x.timesRatio p q r =
      if x.raw * p ≤ maxRaw then fit (divRounded r (x.raw * p) q) .quotientTooLarge
      else .error .productTooLarge := by
  have hq' : q * scale ≠ 0 := (Nat.mul_pos hpos scale_pos).ne'
  rw [timesRatio, ofInt_natCast, ofInt_natCast, fit_of_le hp, fit_of_le hq, ok_bind, mul_eq,
    divRounded_mul_scale]
  split
  · next h =>
    rw [fit_of_le h, ok_bind, ok_bind, div_eq _ hq', divRounded_mul_mul_right _ _ _ scale_pos]
  · next h => rw [fit, dif_neg h, error_bind]

theorem timesRatio_eq_ok_iff (hp : p * scale ≤ maxRaw) (hq : q * scale ≤ maxRaw) (hpos : 0 < q) :
    x.timesRatio p q r = .ok y ↔ x.raw * p ≤ maxRaw ∧ y.raw = divRounded r (x.raw * p) q := by
  rw [timesRatio_eq x hp hq hpos]
  split
  · next h => rw [fit_eq_ok_iff, and_iff_right h]
  · next h => exact ⟨nofun, fun hx => absurd hx.1 h⟩

theorem timesRatio_error {failure : Failure} (hp : p * scale ≤ maxRaw) (hq : q * scale ≤ maxRaw)
    (hpos : 0 < q) (h : x.timesRatio p q r = .error failure) : failure = .productTooLarge := by
  rw [timesRatio_eq x hp hq hpos] at h
  split at h
  · next hproduct =>
    have hlt := (fit_eq_error_iff.mp h).1
    exact absurd ((divRounded_le_self r _ q).trans hproduct) (Nat.not_le.mpr hlt)
  · exact (Except.error.inj h).symm

theorem rootRounded_le_maxRaw (a : Fixed) (r : Rounding) :
    rootRounded r (a.raw * scale) ≤ maxRaw := by
  have hle : a.raw * scale ≤ maxRaw * maxRaw :=
    Nat.mul_le_mul a.raw_le (by decide)
  cases r with
  | down =>
    rw [rootRounded]
    exact (Nat.sqrt_le_sqrt hle).trans (Nat.sqrt_eq maxRaw).le
  | up => exact rootRounded_up_le_iff.mpr hle

theorem integerRoot_eq_sqrt {n : ℕ} (hn : n < 2 ^ 512) : integerRoot n = .ok n.sqrt := by
  rw [integerRoot, if_neg (Int.not_lt.mpr (Int.natCast_nonneg n)), Int.toNat_natCast,
    floorRoot?_eq_sqrt hn]

theorem sqrt_eq (a : Fixed) (r : Rounding) :
    a.sqrt r = .ok ⟨rootRounded r (a.raw * scale), rootRounded_le_maxRaw a r⟩ := by
  have hwide : a.raw * scale < 2 ^ 512 :=
    (Nat.mul_le_mul_right scale a.raw_le).trans_lt maxRaw_mul_scale_lt
  have hle := rootRounded_le_maxRaw a r
  rw [sqrt]
  simp only [integerRoot_eq_sqrt hwide, ok_bind]
  cases r with
  | down => exact fit_of_le hle
  | up => exact fit_of_le hle

theorem sub_eq_ok_iff : a.sub b = .ok x ↔ b ≤ a ∧ x = a.excess b := by
  unfold sub
  split
  · next h =>
    constructor
    · intro hx
      cases hx
    · rintro ⟨hle, -⟩
      exact absurd h (Nat.not_lt.mpr hle)
  · next h =>
    rw [Except.ok.injEq, eq_comm]
    exact (and_iff_right (Nat.not_lt.mp h)).symm

/-! ### Whole units of a difference -/

theorem raw_excess (a b : Fixed) : (a.excess b).raw = a.raw - b.raw := rfl

theorem le_toInteger_excess_iff {k : ℕ} (hk : 0 < k) :
    k ≤ (a.excess b).toInteger .down ↔ b.raw + k * scale ≤ a.raw := by
  have hpos := Nat.mul_pos hk scale_pos
  rw [toInteger, le_divRounded_down_iff scale_pos, raw_excess]
  omega

theorem add_le_toInteger_excess {m n : ℕ} {a' b' : Fixed} (hn : 0 < n)
    (h : n ≤ (a.excess b).toInteger .down)
    (hgrow : b'.raw + m * scale + a.raw ≤ b.raw + a'.raw) :
    m + n ≤ (a'.excess b').toInteger .down := by
  have hle := (le_toInteger_excess_iff hn).mp h
  apply (le_toInteger_excess_iff (Nat.add_pos_right m hn)).mpr
  rw [Nat.add_mul]
  omega

theorem toInteger_down_le_add {n : ℕ} (h : a.raw ≤ b.raw + n * scale) :
    a.toInteger .down ≤ b.toInteger .down + n := by
  refine (divRounded_mono .down scale scale_pos h).trans ?_
  rw [divRounded_down, Nat.add_mul_div_right _ _ scale_pos]
  rfl

theorem le_toInteger_down_iff {n : ℕ} (h : x.raw = n * scale) :
    n ≤ a.toInteger .down ↔ x ≤ a := by
  rw [toInteger, le_divRounded_down_iff scale_pos, ← h, le_iff_raw]

theorem toInteger_excess_le_iff {k : ℕ} :
    (a.excess b).toInteger .up ≤ k ↔ a.raw ≤ b.raw + k * scale := by
  rw [toInteger, divRounded_up_le_iff scale_pos, raw_excess]
  omega

theorem toInteger_excess_pos_iff : 0 < (a.excess b).toInteger .up ↔ b < a := by
  rw [← Nat.not_le, toInteger_excess_le_iff, Nat.zero_mul, Nat.add_zero, Nat.not_le, lt_iff_raw]

/-! ### Rational values -/

theorem scale_cast_pos : (0 : ℚ) < scale := by exact_mod_cast scale_pos

theorem value_nonneg (x : Fixed) : 0 ≤ x.value :=
  div_nonneg (Nat.cast_nonneg _) scale_cast_pos.le

theorem value_le_value_iff : x.value ≤ y.value ↔ x ≤ y := by
  rw [value, value, div_le_div_iff_of_pos_right scale_cast_pos, Nat.cast_le, le_iff_raw]

theorem value_inj : x.value = y.value ↔ x = y := by
  rw [value, value, div_left_inj' scale_cast_pos.ne', Nat.cast_inj]
  exact ⟨ext_raw, congrArg raw⟩

theorem value_mul_scale (x : Fixed) : x.value * scale = x.raw :=
  div_mul_cancel₀ _ scale_cast_pos.ne'

theorem value_natCast {n : ℕ} (h : x.raw = n * scale) : x.value = n := by
  rw [value, h, Nat.cast_mul, mul_div_cancel_right₀ _ scale_cast_pos.ne']

theorem value_add_natCast {n : ℕ} (h : x.raw = a.raw + n * scale) : x.value = a.value + n := by
  rw [value, value, h, Nat.cast_add, Nat.cast_mul, add_div,
    mul_div_cancel_right₀ _ scale_cast_pos.ne']

theorem value_add_natCast_le_iff {n : ℕ} :
    a.value + n ≤ b.value ↔ a.raw + n * scale ≤ b.raw := by
  rw [value, value, div_add' _ _ _ scale_cast_pos.ne', div_le_div_iff_of_pos_right scale_cast_pos]
  exact_mod_cast Iff.rfl

theorem value_le_add_natCast_iff {n : ℕ} :
    a.value ≤ b.value + n ↔ a.raw ≤ b.raw + n * scale := by
  rw [value, value, div_add' _ _ _ scale_cast_pos.ne', div_le_div_iff_of_pos_right scale_cast_pos]
  exact_mod_cast Iff.rfl

theorem not_lt_iff : ¬ a < b ↔ b ≤ a := Nat.not_lt

theorem value_excess (h : b ≤ a) : (a.excess b).value = a.value - b.value := by
  rw [value, excess, Nat.cast_sub (le_iff_raw.mp h), sub_div]
  rfl

theorem toInteger_natCast {n : ℕ} (h : x.raw = n * scale) (r : Rounding) : x.toInteger r = n := by
  rw [toInteger, h, divRounded_mul_self r n scale_pos]

theorem toInteger_eq_whole (x : Fixed) (r : Rounding) : (x.toInteger r : ℤ) = r.whole x.value :=
  divRounded_eq_whole r x.raw scale_pos

theorem toInteger_down_eq_floor (x : Fixed) : (x.toInteger .down : ℤ) = ⌊x.value⌋ :=
  x.toInteger_eq_whole .down

theorem abs_toInteger_sub_lt (x : Fixed) (r : Rounding) : |(x.toInteger r : ℚ) - x.value| < 1 :=
  abs_divRounded_sub_lt r x.raw scale_pos

theorem toInteger_down_le_value (x : Fixed) : x.toInteger .down ≤ x.value :=
  divRounded_toward .down x.raw scale_pos

theorem value_le_toInteger_up (x : Fixed) : x.value ≤ x.toInteger .up :=
  divRounded_toward .up x.raw scale_pos

theorem ratio_toward (r : Rounding) (n p : ℕ) (hpos : 0 < q) :
    r.Toward (divRounded r (n * p) q / scale) (n / scale * p / q) := by
  have hraw := (divRounded_toward r (n * p) hpos).div_right scale_cast_pos.le
  rwa [Nat.cast_mul, div_right_comm, mul_div_right_comm] at hraw

theorem product_toward (r : Rounding) (m n : ℕ) :
    r.Toward (divRounded r (m * n) scale / scale) (m / scale * (n / scale)) := by
  have hraw := (divRounded_toward r (m * n) scale_pos).div_right scale_cast_pos.le
  rwa [Nat.cast_mul, div_div, mul_div_mul_comm] at hraw

theorem fraction_toward (r : Rounding) (p : ℕ) (hpos : 0 < q) :
    r.Toward (divRounded r (p * scale) q / scale) (p / q) := by
  have hraw := (divRounded_toward r (p * scale) hpos).div_right scale_cast_pos.le
  rwa [Nat.cast_mul, div_right_comm, mul_div_cancel_right₀ _ scale_cast_pos.ne'] at hraw

theorem root_toward (r : Rounding) (n : ℕ) :
    r.Toward (rootRounded r (n * scale) / scale * (rootRounded r (n * scale) / scale))
      (n / scale) := by
  have hs := scale_cast_pos
  have hn : (n : ℚ) / scale = (n * scale : ℕ) / (scale * scale : ℚ) := by
    rw [Nat.cast_mul, mul_div_mul_right _ _ hs.ne']
  rw [hn, div_mul_div_comm, ← Nat.cast_mul]
  apply Rounding.Toward.div_right _ (mul_pos hs hs).le
  cases r with
  | down => exact Nat.cast_le.mpr (le_rootRounded_down_iff.mp le_rfl)
  | up => exact Nat.cast_le.mpr (rootRounded_up_le_iff.mp le_rfl)

end Fixed

end BondingPool
