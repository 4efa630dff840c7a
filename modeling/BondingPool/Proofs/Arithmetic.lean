import Mathlib.Tactic.NormNum
import BondingPool.Proofs.Fixed

/-!
# Fixed-point arithmetic against that of the rationals

An operation on fixed-point numbers answers with the rational result rounded to a multiple of `10⁻¹⁸`,
wherever a number of 256 bits has that value; nothing else is refused, and what is refused is named by one
failure each. The descent to an integer root settles well within its limit, so a root is always answered,
and it is the nearest one on the side asked for.
-/

namespace BondingPool

def Rounding.raw (r : Rounding) (q : ℚ) : ℤ := r.whole (q * scale)

namespace Fixed

variable {a b q x : Fixed}

/-! ### Rounded results -/

/-- The answer is the number with this raw value where one of 256 bits has it, and this failure where
none has. -/
structure Fits (answer : Except Failure Fixed) (raw : ℤ) (failure : Failure) : Prop where
  exists_ok (h : 0 ≤ raw ∧ raw ≤ 2 ^ 256 - 1) : ∃ x, answer = .ok x ∧ (x.raw : ℤ) = raw
  eq_error (h : ¬ (0 ≤ raw ∧ raw ≤ 2 ^ 256 - 1)) : answer = .error failure

theorem natCast_maxRaw : (maxRaw : ℤ) = 2 ^ 256 - 1 := by decide

theorem fits_fit (n : ℕ) (failure : Failure) : Fits (fit n failure) n failure where
  exists_ok h := by
    rw [← natCast_maxRaw, Int.ofNat_le] at h
    exact ⟨_, fit_of_le h.2, rfl⟩
  eq_error h := by
    rw [← natCast_maxRaw, Int.ofNat_le] at h
    exact fit_eq_error_iff.mpr ⟨by omega, rfl⟩

theorem add_fits (a b : Fixed) (r : Rounding) :
    Fits (a.add b) (r.raw (a.value + b.value)) .sumTooLarge := by
  have hraw : r.raw (a.value + b.value) = (a.raw + b.raw : ℕ) := by
    rw [Rounding.raw, add_mul, value_mul_scale, value_mul_scale]
    exact_mod_cast r.whole_intCast (a.raw + b.raw)
  rw [hraw]
  exact fits_fit _ _

theorem sub_fits (a b : Fixed) (r : Rounding) :
    Fits (a.sub b) (r.raw (a.value - b.value)) .negativeDifference := by
  have hraw : r.raw (a.value - b.value) = a.raw - b.raw := by
    rw [Rounding.raw, sub_mul, value_mul_scale, value_mul_scale]
    exact_mod_cast r.whole_intCast (a.raw - b.raw)
  have hmax : (a.raw : ℤ) ≤ 2 ^ 256 - 1 := by
    rw [← natCast_maxRaw]
    exact_mod_cast a.raw_le
  rw [hraw]
  constructor
  · intro h
    have hle : b ≤ a := le_iff_raw.mpr (by omega)
    exact ⟨_, sub_eq_ok_excess hle, Int.ofNat_sub hle⟩
  · intro h
    exact if_pos (lt_iff_raw.mpr (by omega))

theorem mul_fits (a b : Fixed) (r : Rounding) :
    Fits (a.mul b r) (r.raw (a.value * b.value)) .productTooLarge := by
  have hexact : a.value * b.value * scale = (a.raw * b.raw : ℕ) / scale := by
    rw [mul_assoc, value_mul_scale, value, Nat.cast_mul, div_mul_eq_mul_div]
  rw [Rounding.raw, hexact, ← divRounded_eq_whole r _ scale_pos, mul_eq]
  exact fits_fit _ _

theorem div_fits (a : Fixed) (hb : b ≠ zero) (r : Rounding) :
    Fits (a.div b r) (r.raw (a.value / b.value)) .quotientTooLarge := by
  have hraw : b.raw ≠ 0 := fun h => hb (ext_raw h)
  have hexact : a.value / b.value * scale = (a.raw * scale : ℕ) / b.raw := by
    rw [value, value, div_div_div_cancel_right₀ scale_cast_pos.ne', Nat.cast_mul, div_mul_eq_mul_div]
  rw [Rounding.raw, hexact, ← divRounded_eq_whole r _ (Nat.pos_of_ne_zero hraw), div_eq a hraw]
  exact fits_fit _ _

theorem raw_floor (a : Fixed) : (a.floor.raw : ℤ) = ⌊a.value⌋ * scale := by
  rw [floor, Nat.cast_mul, toInteger_down_eq_floor]

theorem ceiling_fits (a : Fixed) : Fits a.ceiling (⌈a.value⌉ * scale) .rawTooLarge := by
  have hraw : ⌈a.value⌉ * scale = (a.toInteger .up * scale : ℕ) := by
    rw [Nat.cast_mul, toInteger_eq_whole, Rounding.whole]
  rw [hraw]
  exact fits_fit _ _

theorem value_mul_value_le_iff : x.value * b.value ≤ a.value ↔ x.raw * b.raw ≤ a.raw * scale := by
  have hs := scale_cast_pos
  rw [value, value, value, div_mul_div_comm, div_le_div_iff₀ (mul_pos hs hs) hs, ← mul_assoc,
    mul_le_mul_iff_left₀ hs]
  exact_mod_cast Iff.rfl

theorem le_div_iff (h : a.div b .down = .ok q) :
    x ≤ q ↔ x.value * b.value ≤ a.value := by
  have hb : b.raw ≠ 0 := by
    intro h0
    rw [div, if_pos h0] at h
    cases h
  rw [div_eq a hb, fit_eq_ok_iff] at h
  rw [le_iff_raw, h, le_divRounded_down_iff (Nat.pos_of_ne_zero hb), value_mul_value_le_iff]

/-- Every operation answers with the exact result rounded in the direction asked for, and fails exactly where
no number has that value. -/
theorem operations_rounded (a b : Fixed) (r : Rounding) :
    Fits (a.add b) (r.raw (a.value + b.value)) .sumTooLarge ∧
      Fits (a.sub b) (r.raw (a.value - b.value)) .negativeDifference ∧
      Fits (a.mul b r) (r.raw (a.value * b.value)) .productTooLarge ∧
      (b ≠ zero → Fits (a.div b r) (r.raw (a.value / b.value)) .quotientTooLarge) ∧
      a.div zero r = .error .zeroDivisor ∧
      (a.floor.raw : ℤ) = ⌊a.value⌋ * scale ∧
      Fits a.ceiling (⌈a.value⌉ * scale) .rawTooLarge ∧
      (a.toInteger r : ℤ) = r.whole a.value ∧
      ∀ q, a.div b .down = .ok q → ∀ x : Fixed, x ≤ q ↔ x.value * b.value ≤ a.value := by
  refine ⟨a.add_fits b r, a.sub_fits b r, a.mul_fits b r, fun hb => div_fits a hb r, ?_, a.raw_floor,
    a.ceiling_fits, a.toInteger_eq_whole r, fun q h x => le_div_iff h⟩
  exact if_pos rfl

theorem operations_rounded_sample :
    Fixed.mk (3 * scale) (by decide) ≠ zero ∧
      Fits ((Fixed.mk scale (by decide)).div ⟨3 * scale, by decide⟩ .up) 333333333333333334
        .quotientTooLarge ∧
      (Fixed.mk scale (by decide)).div ⟨3 * scale, by decide⟩ .down =
        .ok ⟨333333333333333333, by decide⟩ ∧
      ¬ (Fixed.mk 333333333333333334 (by decide)).value * (Fixed.mk (3 * scale) (by decide)).value ≤
        (Fixed.mk scale (by decide)).value := by
  have hb : Fixed.mk (3 * scale) (by decide) ≠ zero := by decide
  have hdown : (Fixed.mk scale (by decide)).div ⟨3 * scale, by decide⟩ .down =
      .ok ⟨333333333333333333, by decide⟩ := by
    decide
  have hraw : Rounding.up.raw ((Fixed.mk scale (by decide)).value /
      (Fixed.mk (3 * scale) (by decide)).value) = 333333333333333334 := by
    norm_num [Rounding.raw, Rounding.whole, value, scale]
  obtain ⟨-, -, -, hdiv, -, -, -, -, hle⟩ :=
    operations_rounded ⟨scale, by decide⟩ ⟨3 * scale, by decide⟩ .up
  refine ⟨hb, hraw ▸ hdiv hb, hdown, fun h => ?_⟩
  exact absurd ((hle _ hdown ⟨333333333333333334, by decide⟩).mpr h) (by decide)

/-! ### Roots -/

/-- The descent settles at the floor of the root in 257 steps, so every number has a root, which is the
greatest below the exact one or the least above it. -/
theorem roots_rounded :
    (∀ n : ℤ, 0 ≤ n → n < 2 ^ 512 → ∃ root : ℕ,
      integerRoot n = .ok root ∧ (root : ℤ) * root ≤ n ∧ n < (root + 1) * (root + 1) ∧
        (0 < n → ∀ steps, 257 ≤ steps →
          newtonDescent n.toNat steps (rootStart n.toNat) = some root)) ∧
    ∀ a : Fixed, ∃ low high, a.sqrt .down = .ok low ∧ a.sqrt .up = .ok high ∧
      IsGreatest {k : ℕ | k * k ≤ a.raw * scale} low.raw ∧
      IsLeast {k : ℕ | a.raw * scale ≤ k * k} high.raw := by
  constructor
  · intro n hn hlt
    obtain ⟨m, rfl⟩ := Int.eq_ofNat_of_zero_le hn
    have hm : m < 2 ^ 512 := by exact_mod_cast hlt
    refine ⟨m.sqrt, integerRoot_eq_sqrt hm, ?_, ?_, ?_⟩
    · exact_mod_cast Nat.sqrt_le m
    · exact_mod_cast Nat.lt_succ_sqrt m
    · intro hpos steps hsteps
      exact newtonDescent_rootStart (by omega) hm hsteps
  · intro a
    exact ⟨_, _, a.sqrt_eq .down, a.sqrt_eq .up, isGreatest_rootRounded _, isLeast_rootRounded _⟩

theorem roots_rounded_sample :
    (0 : ℤ) < 2 ^ 512 - 1 ∧ (2 ^ 512 - 1 : ℤ) < 2 ^ 512 ∧ 257 ≤ rootSteps ∧ ∃ root : ℕ,
      integerRoot (2 ^ 512 - 1) = .ok root ∧ (2 ^ 512 - 1 : ℤ) < (root + 1) * (root + 1) ∧
        newtonDescent (2 ^ 512 - 1 : ℤ).toNat rootSteps (rootStart (2 ^ 512 - 1 : ℤ).toNat) =
          some root := by
  have hpos : (0 : ℤ) < 2 ^ 512 - 1 := sub_pos.mpr (one_lt_pow₀ one_lt_two (by decide))
  have hlt : (2 ^ 512 - 1 : ℤ) < 2 ^ 512 := sub_one_lt _
  have hsteps : 257 ≤ rootSteps := by decide
  obtain ⟨root, hroot, -, hnext, hdescent⟩ := roots_rounded.1 _ hpos.le hlt
  exact ⟨hpos, hlt, hsteps, root, hroot, hnext, hdescent hpos rootSteps hsteps⟩

end Fixed

end BondingPool
