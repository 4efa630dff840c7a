import BondingPool.Value

/-!
# Price lines

Token amounts and the terms of a curve are unsigned 64-bit integers. A `Word` is one with its
bound; sums and differences leave the type and have to come back through `ofInt?`.

The price of one more bonded token, after `b` of them were sold, is `slope * b + base`. Both
terms are ratios of words and are kept as given, unreduced; a line rises from zero or starts
above it. Loose terms are admitted in the order numerator, denominator, slope before base, and
each by its kind before its range. A term out of range is named with all its digits: a limit that
a platform sets on the length of a written integer is left out.
-/

namespace BondingPool

/-! ### Words -/

def maxWord : Nat := 0xFFFFFFFFFFFFFFFF

structure Word where
  val : Nat
  val_le : val ≤ maxWord
  deriving DecidableEq, Repr

namespace Word

def zero : Word := ⟨0, Nat.zero_le _⟩

def ofInt? (n : Int) : Option Word :=
  if h : 0 ≤ n ∧ n ≤ maxWord then some ⟨n.toNat, by omega⟩ else none

theorem ext_val {v w : Word} (h : v.val = w.val) : v = w := by
  cases v
  cases w
  cases h
  rfl

theorem ofInt?_eq_some_iff {n : Int} {w : Word} : ofInt? n = some w ↔ n = w.val := by
  have hw := w.val_le
  unfold ofInt?
  split
  · next h =>
    rw [Option.some_inj]
    constructor
    · rintro rfl
      exact (Int.toNat_of_nonneg h.1).symm
    · rintro rfl
      exact ext_val rfl
  · next h =>
    constructor
    · nofun
    · rintro rfl
      exact absurd ⟨Int.natCast_nonneg _, Int.ofNat_le.2 hw⟩ h

theorem ofInt?_eq_none_iff {n : Int} : ofInt? n = none ↔ n < 0 ∨ (maxWord : Int) < n := by
  unfold ofInt?
  split
  · next h => exact ⟨nofun, fun h' => by omega⟩
  · next h => exact ⟨fun _ => by omega, fun _ => rfl⟩

@[simp]
theorem ofInt?_val (w : Word) : ofInt? w.val = some w := ofInt?_eq_some_iff.2 rfl

end Word

/-! ### Lines -/

structure Ratio where
  num : Word
  den : Word
  den_pos : 0 < den.val
  deriving DecidableEq, Repr

structure PriceLine where
  slope : Ratio
  base : Ratio
  positive : slope.num.val ≠ 0 ∨ base.num.val ≠ 0
  deriving DecidableEq, Repr

inductive Term
  | slopeNumerator
  | slopeDenominator
  | baseNumerator
  | baseDenominator
  deriving DecidableEq, Repr

def Term.key : Term → String
  | .slopeNumerator => "slope_numerator"
  | .slopeDenominator => "slope_denominator"
  | .baseNumerator => "r0_numerator"
  | .baseDenominator => "r0_denominator"

def Term.all : List Term := [.slopeNumerator, .slopeDenominator, .baseNumerator, .baseDenominator]

structure Terms (α : Type) where
  slopeNumerator : α
  slopeDenominator : α
  baseNumerator : α
  baseDenominator : α
  deriving DecidableEq, Repr

namespace Terms

variable {α β : Type}

def get (t : Terms α) : Term → α
  | .slopeNumerator => t.slopeNumerator
  | .slopeDenominator => t.slopeDenominator
  | .baseNumerator => t.baseNumerator
  | .baseDenominator => t.baseDenominator

def ofFn (f : Term → α) : Terms α :=
  ⟨f .slopeNumerator, f .slopeDenominator, f .baseNumerator, f .baseDenominator⟩

def map (f : α → β) (t : Terms α) : Terms β := ofFn fun term => f (t.get term)

def traverse {m : Type → Type} [Monad m] (f : Term → α → m β) (t : Terms α) : m (Terms β) := do
  let slopeNumerator ← f .slopeNumerator t.slopeNumerator
  let slopeDenominator ← f .slopeDenominator t.slopeDenominator
  let baseNumerator ← f .baseNumerator t.baseNumerator
  let baseDenominator ← f .baseDenominator t.baseDenominator
  return ⟨slopeNumerator, slopeDenominator, baseNumerator, baseDenominator⟩

def toList (t : Terms α) : List (Term × α) := Term.all.map fun term => (term, t.get term)

end Terms

inductive LineFault
  | notInteger (term : Term)
  | outOfRange (term : Term) (n : Int)
  | zeroDenominator (term : Term)
  | zeroPrice
  deriving DecidableEq, Repr

def LineFault.message : LineFault → String
  | .notInteger term => term.key ++ " must be an int"
  | .outOfRange term n => term.key ++ s!" must be in [0, {maxWord}]: {n}"
  | .zeroDenominator term => term.key ++ " must be non-zero"
  | .zeroPrice => "slope and r0 cannot both be zero"

namespace PriceLine

def ofWords (t : Terms Word) : Except LineFault PriceLine :=
  if hs : t.slopeDenominator.val = 0 then .error (.zeroDenominator .slopeDenominator)
  else if hb : t.baseDenominator.val = 0 then .error (.zeroDenominator .baseDenominator)
  else if hz : t.slopeNumerator.val = 0 ∧ t.baseNumerator.val = 0 then .error .zeroPrice
  else .ok
    { slope := ⟨t.slopeNumerator, t.slopeDenominator, Nat.pos_of_ne_zero hs⟩
      base := ⟨t.baseNumerator, t.baseDenominator, Nat.pos_of_ne_zero hb⟩
      positive := Decidable.not_and_iff_not_or_not.1 hz }

def admitTerm (term : Term) (v : Value) : Except LineFault Word :=
  match v.int? with
  | none => .error (.notInteger term)
  | some n => match Word.ofInt? n with
    | none => .error (.outOfRange term n)
    | some w => .ok w

def ofValues (t : Terms Value) : Except LineFault PriceLine := do
  ofWords (← t.traverse admitTerm)

def words (line : PriceLine) : Terms Word :=
  ⟨line.slope.num, line.slope.den, line.base.num, line.base.den⟩

def terms (line : PriceLine) : Terms Nat := line.words.map (·.val)

theorem ofWords_words (line : PriceLine) : ofWords line.words = .ok line := by
  have hs := line.slope.den_pos
  have hb := line.base.den_pos
  have hp := line.positive
  unfold ofWords words
  split
  · next h => exact absurd h (Nat.ne_of_gt hs)
  · split
    · next h => exact absurd h (Nat.ne_of_gt hb)
    · split
      · next h => exact absurd h (Decidable.not_and_iff_not_or_not.2 hp)
      · rfl

theorem words_of_ofWords {t : Terms Word} {line : PriceLine} (h : ofWords t = .ok line) :
    line.words = t := by
  unfold ofWords at h
  split at h
  · nomatch h
  · split at h
    · nomatch h
    · split at h
      · nomatch h
      · cases h
        rfl

theorem ofWords_eq_ok_iff {t : Terms Word} {line : PriceLine} :
    ofWords t = .ok line ↔ line.words = t := by
  constructor
  · exact words_of_ofWords
  · rintro rfl
    exact ofWords_words line

theorem ofWords_eq_error_iff {t : Terms Word} {fault : LineFault} :
    ofWords t = .error fault ↔
      t.slopeDenominator.val = 0 ∧ fault = .zeroDenominator .slopeDenominator ∨
      t.slopeDenominator.val ≠ 0 ∧ t.baseDenominator.val = 0 ∧
        fault = .zeroDenominator .baseDenominator ∨
      t.slopeDenominator.val ≠ 0 ∧ t.baseDenominator.val ≠ 0 ∧ t.slopeNumerator.val = 0 ∧
        t.baseNumerator.val = 0 ∧ fault = .zeroPrice := by
  unfold ofWords
  split
  · next hs => simp [hs, eq_comm]
  · next hs =>
    split
    · next hb => simp [hs, hb, eq_comm]
    · next hb =>
      split
      · next hz => simp [hs, hb, hz, eq_comm]
      · next hz =>
        refine ⟨nofun, ?_⟩
        rintro (⟨h, -⟩ | ⟨-, h, -⟩ | ⟨-, -, hslope, hbase, -⟩)
        · exact absurd h hs
        · exact absurd h hb
        · exact absurd ⟨hslope, hbase⟩ hz

end PriceLine

end BondingPool
