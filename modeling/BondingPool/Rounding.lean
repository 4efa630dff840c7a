/-!
# Directed rounding of quotients and roots

A quotient of naturals is rounded down or up, never to nearest. Rounding down is adjoint to
multiplication by the divisor from below and rounding up from above; every bound on a rounded
amount comes from these two equivalences.

The root of a natural is found by Newton's method. The descent starts at a power of two not below
the root and follows Newton's step while the iterates fall; where they stop falling stands the
floor of the root. The number of steps is limited, so the search is an `Option`.
-/

namespace BondingPool

inductive Rounding
  | down
  | up
  deriving DecidableEq, Repr

def Rounding.opposite : Rounding → Rounding
  | .down => .up
  | .up => .down

def divRounded (r : Rounding) (n d : Nat) : Nat :=
  match r with
  | .down => n / d
  | .up => n / d + if n % d = 0 then 0 else 1

theorem divRounded_down (n d : Nat) : divRounded .down n d = n / d := rfl

theorem divRounded_up (n d : Nat) :
    divRounded .up n d = n / d + if n % d = 0 then 0 else 1 := rfl

theorem le_divRounded_down_iff {n d k : Nat} (hd : 0 < d) :
    k ≤ divRounded .down n d ↔ k * d ≤ n :=
  Nat.le_div_iff_mul_le hd

theorem divRounded_up_le_iff {n d k : Nat} (hd : 0 < d) :
    divRounded .up n d ≤ k ↔ n ≤ k * d := by
  have hsplit := Nat.div_add_mod n d
  have hmod := Nat.mod_lt n hd
  rw [divRounded_up, Nat.mul_comm k d]
  constructor
  · intro h
    have hmul := Nat.mul_le_mul_left d h
    rw [Nat.mul_add] at hmul
    split at hmul
    · omega
    · omega
  · intro h
    split
    · rw [Nat.add_zero]
      exact Nat.le_of_mul_le_mul_left (by omega) hd
    · exact Nat.lt_of_mul_lt_mul_left (a := d) (by omega)

theorem divRounded_mul_self {d : Nat} (r : Rounding) (n : Nat) (hd : 0 < d) :
    divRounded r (n * d) d = n := by
  cases r with
  | down => exact Nat.mul_div_cancel n hd
  | up => simp [divRounded_up, Nat.mul_mod_left, Nat.mul_div_cancel n hd]

theorem divRounded_down_le_up (n d : Nat) : divRounded .down n d ≤ divRounded .up n d :=
  Nat.le_add_right _ _

theorem divRounded_up_le_succ (n d : Nat) : divRounded .up n d ≤ divRounded .down n d + 1 := by
  rw [divRounded_up, divRounded_down]
  split <;> omega

theorem divRounded_mono {m n : Nat} (r : Rounding) (d : Nat) (hd : 0 < d) (h : m ≤ n) :
    divRounded r m d ≤ divRounded r n d := by
  cases r with
  | down => exact Nat.div_le_div_right h
  | up =>
    exact (divRounded_up_le_iff hd).2
      (Nat.le_trans h ((divRounded_up_le_iff hd).1 (Nat.le_refl _)))

/-! ### Integer square roots -/

/-- Halving the distance to a 256-bit root takes at most 256 steps, and the last stretch
converges quadratically, so this many steps are more than enough for 512-bit radicands. -/
def rootSteps : Nat := 600

def newtonStep (n x : Nat) : Nat := (x + n / x) / 2

def newtonDescent (n : Nat) : Nat → Nat → Option Nat
  | 0, _ => none
  | steps + 1, x =>
    let y := newtonStep n x
    if x ≤ y then some x else newtonDescent n steps y

def rootStart (n : Nat) : Nat := 1 <<< ((n.log2 + 2) / 2)

def floorRoot? (n : Nat) : Option Nat :=
  if n < 2 then some n else newtonDescent n rootSteps (rootStart n)

theorem newtonDescent_of_le {n steps x : Nat} (h : x ≤ newtonStep n x) :
    newtonDescent n (steps + 1) x = some x := by
  simp [newtonDescent, h]

theorem newtonDescent_of_lt {n steps x : Nat} (h : newtonStep n x < x) :
    newtonDescent n (steps + 1) x = newtonDescent n steps (newtonStep n x) := by
  simp [newtonDescent, Nat.not_le.2 h]

theorem lt_rootStart_sq (n : Nat) : n < rootStart n * rootStart n := by
  have hlog : n < 2 ^ (n.log2 + 1) := Nat.lt_log2_self
  have hexp : n.log2 + 1 ≤ (n.log2 + 2) / 2 + (n.log2 + 2) / 2 := by omega
  have hpow := Nat.pow_le_pow_right (show 0 < 2 by decide) hexp
  rw [rootStart, Nat.one_shiftLeft, ← Nat.pow_add]
  exact Nat.lt_of_lt_of_le hlog hpow

end BondingPool
