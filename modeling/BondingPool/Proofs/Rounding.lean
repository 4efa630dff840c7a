import Mathlib.Algebra.Order.Field.Basic
import Mathlib.Algebra.Order.Field.Rat
import Mathlib.Data.Nat.Cast.Order.Field
import Mathlib.Data.Rat.Floor
import Mathlib.Tactic.Linarith
import Mathlib.Tactic.Positivity
import Mathlib.Data.Nat.Sqrt
import Mathlib.Algebra.Order.Ring.Unbundled.Basic
import Mathlib.Order.Bounds.Defs
import BondingPool.Rounding

/-!
# Rounded quotients and roots

A rounded quantity lies on the side of the exact one that its direction names. This relation is kept
by sums and by products with numbers that are not negative, and it holds of every rounded quotient,
so the error of a formula that rounds its terms alike has a known sign. The rounded quotient is the
floor or the ceiling of the exact one.

From any point above the root one step of Newton's descent at least halves the distance to it, and at
the root the iterates stop falling. So the limited descent settles for every radicand of 512 bits,
and what it settles at is the floor of the root. The root rounded in either direction is adjoint to
squaring, as the rounded quotient is to multiplication.
-/

namespace BondingPool

/-! ### Quotients -/

/-- `x` lies on the side of `y` that rounding in this direction goes to. -/
def Rounding.Toward (r : Rounding) (x y : ℚ) : Prop :=
  match r with
  | .down => x ≤ y
  | .up => y ≤ x

namespace Rounding.Toward

variable {r : Rounding} {v w x y z : ℚ}

theorem refl (r : Rounding) (x : ℚ) : r.Toward x x := by
  cases r <;> exact le_refl x

theorem trans (hxy : r.Toward x y) (hyz : r.Toward y z) : r.Toward x z := by
  cases r with
  | down => exact le_trans hxy hyz
  | up => exact le_trans hyz hxy

theorem add (hxy : r.Toward x y) (hvw : r.Toward v w) : r.Toward (x + v) (y + w) := by
  cases r with
  | down => exact add_le_add hxy hvw
  | up => exact add_le_add hxy hvw

theorem mul_right (h : r.Toward x y) (hz : 0 ≤ z) : r.Toward (x * z) (y * z) := by
  cases r with
  | down => exact mul_le_mul_of_nonneg_right h hz
  | up => exact mul_le_mul_of_nonneg_right h hz

theorem div_right (h : r.Toward x y) (hz : 0 ≤ z) : r.Toward (x / z) (y / z) := by
  cases r with
  | down => exact div_le_div_of_nonneg_right h hz
  | up => exact div_le_div_of_nonneg_right h hz

end Rounding.Toward

theorem divRounded_toward (r : Rounding) (n : ℕ) {d : ℕ} (hd : 0 < d) :
    r.Toward (divRounded r n d) (n / d) := by
  have hd' : (0 : ℚ) < d := by exact_mod_cast hd
  cases r with
  | down =>
    exact (le_div_iff₀ hd').mpr (by exact_mod_cast (le_divRounded_down_iff hd).mp le_rfl)
  | up =>
    exact (div_le_iff₀ hd').mpr (by exact_mod_cast (divRounded_up_le_iff hd).mp le_rfl)

@[simp]
theorem divRounded_zero (r : Rounding) (d : ℕ) : divRounded r 0 d = 0 := by
  cases r <;> simp [divRounded]

theorem divRounded_le_self (r : Rounding) (n d : ℕ) : divRounded r n d ≤ n := by
  cases r with
  | down => exact Nat.div_le_self n d
  | up =>
    rcases Nat.eq_zero_or_pos d with rfl | hd
    · rw [divRounded_up, Nat.div_zero, Nat.mod_zero]
      split <;> omega
    · exact (divRounded_up_le_iff hd).mpr (Nat.le_mul_of_pos_right n hd)

theorem divRounded_le_of_le_mul (r : Rounding) {n d k : ℕ} (hd : 0 < d) (h : n ≤ k * d) :
    divRounded r n d ≤ k := by
  have hup := (divRounded_up_le_iff hd).mpr h
  cases r with
  | down => exact (divRounded_down_le_up n d).trans hup
  | up => exact hup

theorem le_divRounded (r : Rounding) {n d k : ℕ} (hd : 0 < d) (h : k * d ≤ n) :
    k ≤ divRounded r n d := by
  have hdown := (le_divRounded_down_iff hd).mpr h
  cases r with
  | down => exact hdown
  | up => exact hdown.trans (divRounded_down_le_up n d)

theorem divRounded_mul_mul_right (r : Rounding) (n d : ℕ) {k : ℕ} (hk : 0 < k) :
    divRounded r (n * k) (d * k) = divRounded r n d := by
  cases r with
  | down => exact Nat.mul_div_mul_right n d hk
  | up =>
    simp only [divRounded_up, Nat.mul_div_mul_right n d hk, Nat.mul_mod_mul_right]
    simp [hk.ne']

theorem divRounded_congr (r : Rounding) {m n d e : ℕ} (hd : 0 < d) (he : 0 < e)
    (h : m * e = n * d) : divRounded r m d = divRounded r n e := by
  rw [← divRounded_mul_mul_right r m d he, ← divRounded_mul_mul_right r n e hd, h,
    Nat.mul_comm d e]

theorem divRounded_le_of_mul_le (r : Rounding) {m n d e : ℕ} (hd : 0 < d) (he : 0 < e)
    (h : m * e ≤ n * d) : divRounded r m d ≤ divRounded r n e := by
  cases r with
  | down =>
    apply (le_divRounded_down_iff he).mpr
    apply Nat.le_of_mul_le_mul_right _ hd
    calc divRounded .down m d * e * d = divRounded .down m d * d * e := Nat.mul_right_comm ..
      _ ≤ m * e := Nat.mul_le_mul_right e ((le_divRounded_down_iff hd).mp le_rfl)
      _ ≤ n * d := h
  | up =>
    apply (divRounded_up_le_iff hd).mpr
    apply Nat.le_of_mul_le_mul_right _ he
    calc m * e ≤ n * d := h
      _ ≤ divRounded .up n e * e * d :=
          Nat.mul_le_mul_right d ((divRounded_up_le_iff he).mp le_rfl)
      _ = divRounded .up n e * d * e := Nat.mul_right_comm ..

theorem divRounded_down_eq_zero_iff {n d : ℕ} (hd : 0 < d) : divRounded .down n d = 0 ↔ n < d := by
  rw [divRounded_down, Nat.div_eq_zero_iff]
  omega

theorem divRounded_up_pos {n d : ℕ} (hn : 0 < n) (hd : 0 < d) : 0 < divRounded .up n d := by
  by_contra h
  have hle := (divRounded_up_le_iff hd).mp (Nat.not_lt.mp h)
  omega

theorem pred_divRounded_up_mul_le (n d : ℕ) : (divRounded .up n d - 1) * d ≤ n := by
  have hpred : divRounded .up n d - 1 ≤ n / d :=
    Nat.sub_le_iff_le_add.mpr (divRounded_up_le_succ n d)
  exact (Nat.mul_le_mul_right d hpred).trans (Nat.div_mul_le_self n d)

theorem lt_divRounded_down_succ_mul (n : ℕ) {d : ℕ} (hd : 0 < d) :
    n < (divRounded .down n d + 1) * d := by
  by_contra h
  have hle := (le_divRounded_down_iff hd).mpr (Nat.not_lt.mp h)
  omega

theorem divRounded_up_mul_lt (n : ℕ) {d : ℕ} (hd : 0 < d) : divRounded .up n d * d < n + d := by
  have hsplit := Nat.div_add_mod n d
  rw [divRounded_up, Nat.add_mul, Nat.mul_comm (n / d)]
  split
  · omega
  · omega

theorem abs_divRounded_sub_lt (r : Rounding) (n : ℕ) {d : ℕ} (hd : 0 < d) :
    |(divRounded r n d : ℚ) - n / d| < 1 := by
  have hd' : (0 : ℚ) < d := by exact_mod_cast hd
  have htoward := divRounded_toward r n hd
  rw [abs_lt]
  cases r with
  | down =>
    have hle : (divRounded .down n d : ℚ) ≤ n / d := htoward
    have hlt : (n : ℚ) / d < divRounded .down n d + 1 := by
      rw [div_lt_iff₀ hd']
      exact_mod_cast lt_divRounded_down_succ_mul n hd
    constructor <;> linarith
  | up =>
    have hle : (n : ℚ) / d ≤ divRounded .up n d := htoward
    have hlt : (divRounded .up n d : ℚ) < n / d + 1 := by
      rw [← div_add_same hd'.ne', lt_div_iff₀ hd']
      exact_mod_cast divRounded_up_mul_lt n hd
    constructor <;> linarith

def Rounding.whole (r : Rounding) (q : ℚ) : ℤ :=
  match r with
  | .down => ⌊q⌋
  | .up => ⌈q⌉

theorem Rounding.whole_intCast (r : Rounding) (n : ℤ) : r.whole n = n := by
  cases r with
  | down => exact Int.floor_intCast n
  | up => exact Int.ceil_intCast n

theorem divRounded_eq_whole (r : Rounding) (n : ℕ) {d : ℕ} (hd : 0 < d) :
    (divRounded r n d : ℤ) = r.whole (n / d) := by
  have htoward := divRounded_toward r n hd
  have hnear := abs_lt.mp (abs_divRounded_sub_lt r n hd)
  symm
  cases r with
  | down => exact Int.floor_eq_iff.mpr ⟨htoward, by push_cast; linarith⟩
  | up => exact Int.ceil_eq_iff.mpr ⟨by push_cast; linarith, htoward⟩

/-! ### Roots -/

theorem sqrt_le_newtonStep (n : ℕ) {x : ℕ} (hx : 0 < x) : n.sqrt ≤ newtonStep n x := by
  have hs := Nat.sqrt_le n
  have hd : n < (n / x + 1) * x := Nat.lt_mul_of_div_lt (Nat.lt_succ_self _) hx
  rw [newtonStep, Nat.le_div_iff_mul_le (by decide)]
  by_contra hlt
  have hsum : n / x + 1 + x ≤ 2 * n.sqrt := by omega
  -- the product of two numbers is at most the square of their mean
  have hmean := four_mul_le_pow_two_add (n / x + 1) x
  have hsq := Nat.pow_le_pow_left hsum 2
  nlinarith

theorem newtonStep_sub_sqrt_le {n x : ℕ} (hx : n.sqrt < x) :
    newtonStep n x - n.sqrt ≤ (x - n.sqrt) / 2 := by
  have hn : n < (n.sqrt + 1) * x :=
    lt_of_lt_of_le (Nat.lt_succ_sqrt n) (Nat.mul_le_mul_left _ hx)
  have hq : n / x ≤ n.sqrt := Nat.lt_succ_iff.mp (Nat.div_lt_of_lt_mul (by rwa [mul_comm]))
  rw [newtonStep]
  omega

theorem newtonStep_lt {n x : ℕ} (hx : n.sqrt < x) : newtonStep n x < x := by
  have h := newtonStep_sub_sqrt_le hx
  omega

theorem newtonDescent_eq_sqrt {n k steps x : ℕ} (hpos : 0 < n) (hx : n.sqrt ≤ x)
    (hk : x - n.sqrt < 2 ^ k) (hs : k < steps) : newtonDescent n steps x = some n.sqrt := by
  have hroot : 0 < n.sqrt := Nat.sqrt_pos.mpr hpos
  -- the distance to the root is below a power of two, which each step halves
  induction k generalizing steps x with
  | zero =>
    obtain ⟨steps, rfl⟩ := Nat.exists_eq_succ_of_ne_zero (by omega : steps ≠ 0)
    have he : x = n.sqrt := by omega
    subst he
    exact newtonDescent_of_le (sqrt_le_newtonStep n hroot)
  | succ k ih =>
    obtain ⟨steps, rfl⟩ := Nat.exists_eq_succ_of_ne_zero (by omega : steps ≠ 0)
    by_cases he : x = n.sqrt
    · subst he
      exact newtonDescent_of_le (sqrt_le_newtonStep n hroot)
    · have hlt : n.sqrt < x := by omega
      have hhalf := newtonStep_sub_sqrt_le hlt
      rw [pow_succ] at hk
      rw [newtonDescent_of_lt (newtonStep_lt hlt)]
      exact ih (sqrt_le_newtonStep n (by omega)) (by omega) (by omega)

theorem rootStart_le {n : ℕ} (hn : n < 2 ^ 512) : rootStart n ≤ 2 ^ 256 := by
  rw [rootStart, Nat.one_shiftLeft]
  apply Nat.pow_le_pow_right (by decide)
  by_cases h0 : n = 0
  · subst h0
    decide
  · have hlog := (Nat.log2_lt h0).mpr hn
    omega

/-- A root of 256 bits is reached from the start in 256 halvings, and one step more shows it. -/
theorem newtonDescent_rootStart {n steps : ℕ} (hpos : 0 < n) (hn : n < 2 ^ 512)
    (hs : 256 < steps) : newtonDescent n steps (rootStart n) = some n.sqrt := by
  have hstart : n.sqrt ≤ rootStart n := (Nat.sqrt_lt.mpr (lt_rootStart_sq n)).le
  have hle := rootStart_le hn
  have hroot : 0 < n.sqrt := Nat.sqrt_pos.mpr hpos
  have hdist : rootStart n - n.sqrt < 2 ^ 256 := by omega
  exact newtonDescent_eq_sqrt hpos hstart hdist hs

theorem floorRoot?_eq_sqrt {n : ℕ} (hn : n < 2 ^ 512) : floorRoot? n = some n.sqrt := by
  unfold floorRoot?
  split
  · next h =>
    obtain rfl | rfl : n = 0 ∨ n = 1 := by omega
    · simp
    · simp
  · next h => exact newtonDescent_rootStart (by omega) hn (by decide)

def rootRounded (r : Rounding) (n : ℕ) : ℕ :=
  match r with
  | .down => n.sqrt
  | .up => if n.sqrt * n.sqrt < n then n.sqrt + 1 else n.sqrt

theorem le_rootRounded_down_iff {n k : ℕ} : k ≤ rootRounded .down n ↔ k * k ≤ n := Nat.le_sqrt

theorem rootRounded_up_le_iff {n k : ℕ} : rootRounded .up n ≤ k ↔ n ≤ k * k := by
  have hs := Nat.sqrt_le n
  have hl := Nat.lt_succ_sqrt n
  simp only [rootRounded]
  split
  · next h =>
    constructor
    · intro hk
      exact hl.le.trans (Nat.mul_le_mul hk hk)
    · intro hk
      exact Nat.succ_le_of_lt (Nat.mul_self_lt_mul_self_iff.mp (h.trans_le hk))
  · next h =>
    have he : n.sqrt * n.sqrt = n := by omega
    rw [← Nat.mul_self_le_mul_self_iff, he]

theorem isGreatest_rootRounded (n : ℕ) : IsGreatest {k | k * k ≤ n} (rootRounded .down n) :=
  ⟨le_rootRounded_down_iff.mp le_rfl, fun _ => le_rootRounded_down_iff.mpr⟩

theorem isLeast_rootRounded (n : ℕ) : IsLeast {k | n ≤ k * k} (rootRounded .up n) :=
  ⟨rootRounded_up_le_iff.mp le_rfl, fun _ => rootRounded_up_le_iff.mpr⟩

theorem rootRounded_mul_self (r : Rounding) (k : ℕ) : rootRounded r (k * k) = k := by
  cases r with
  | down => exact Nat.sqrt_eq k
  | up => simp [rootRounded, Nat.sqrt_eq]

end BondingPool
