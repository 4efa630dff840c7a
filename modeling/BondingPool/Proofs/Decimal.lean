import Mathlib.Tactic.NormNum
import BondingPool.Fixed
import BondingPool.Proofs.Fixed
import BondingPool.Proofs.Trimming

/-!
# The decimal text of a number loses nothing

A decimal numeral is a whole number without a zero in front and, behind a point, a limited number of digits
without a zero at the end. This grammar and the value of a numeral do not mention how a number is written;
a numeral has one value, and the text of a number is one whose value is the number.
-/

namespace BondingPool

namespace Text

variable {c : Char} {cs f : List Char} {n places : ℕ} {p q : ℚ}

/-! ### Numerals -/

/-- The digits of a whole number, with no zero in front of others. -/
structure IsWhole (cs : List Char) : Prop where
  digits : ∀ c ∈ cs, c.isDigit = true
  ne_nil : cs ≠ []
  eq_zero : cs.head? = some '0' → cs = ['0']

/-- The digits behind a point, of which the last is not a zero. -/
structure IsFraction (places : ℕ) (cs : List Char) : Prop where
  digits : ∀ c ∈ cs, c.isDigit = true
  ne_nil : cs ≠ []
  length_le : cs.length ≤ places
  last : cs.getLast? ≠ some '0'

/-- Decimal numerals with so many places behind the point at most, and what they stand for. -/
inductive IsDecimal (places : ℕ) : List Char → ℚ → Prop
  | whole {w : List Char} (hw : IsWhole w) : IsDecimal places w (decimalValue w)
  | point {w f : List Char} (hw : IsWhole w) (hf : IsFraction places f) :
    IsDecimal places (w ++ '.' :: f) (decimalValue w + decimalValue f / 10 ^ f.length)

theorem point_notMem (h : ∀ c ∈ cs, c.isDigit = true) : '.' ∉ cs :=
  fun hpoint => absurd (h '.' hpoint) (by decide)

theorem IsDecimal.unique (h : IsDecimal places cs p) (h' : IsDecimal places cs q) : p = q := by
  cases h with
  | whole hw =>
    cases h' with
    | whole _ => rfl
    | point _ _ => exact absurd (by simp) (point_notMem hw.digits)
  | @point w f hw hf =>
    have hcut := split_eq_pair_iff.mpr ⟨rfl, point_notMem hw.digits, point_notMem hf.digits⟩
    generalize htext : w ++ '.' :: f = text at h' hcut
    cases h' with
    | whole hw' => exact absurd (by simp [← htext]) (point_notMem hw'.digits)
    | @point w' f' hw' hf' =>
      have hcut' := split_eq_pair_iff.mpr ⟨rfl, point_notMem hw'.digits, point_notMem hf'.digits⟩
      obtain ⟨rfl, hrest⟩ := List.cons.inj (hcut.symm.trans hcut')
      rw [(List.cons.inj hrest).1]

/-! ### Digits of a natural number -/

theorem decimalValue_concat (cs : List Char) (c : Char) :
    decimalValue (cs ++ [c]) = 10 * decimalValue cs + (c.toNat - 0x30) := by
  rw [decimalValue, List.foldl_append]
  rfl

theorem decimalValue_toDigits (n : ℕ) : decimalValue (Nat.toDigits 10 n) = n :=
  Nat.ofDigitChars_ten_toDigits

theorem isWhole_toDigits (n : ℕ) : IsWhole (Nat.toDigits 10 n) where
  digits _ hc := Nat.isDigit_of_mem_toDigits (by decide) (by decide) hc
  ne_nil := Nat.toDigits_ne_nil
  eq_zero h := by
    induction n using Nat.strongRecOn with
    | ind n ih =>
      rcases Nat.lt_or_ge n 10 with hsmall | hlarge
      · rw [Nat.toDigits_of_lt_base hsmall] at h ⊢
        rw [Option.some.inj h]
      · -- a zero in front would be all that stands before the last digit
        rw [Nat.toDigits_of_base_le (by decide) hlarge,
          List.head?_append_of_ne_nil _ Nat.toDigits_ne_nil] at h
        have hfront := ih (n / 10) (Nat.div_lt_self (by omega) (by decide)) h
        have hvalue := decimalValue_toDigits (n / 10)
        have hzero : decimalValue ['0'] = 0 := rfl
        rw [hfront, hzero] at hvalue
        omega

theorem isDecimal_toDigits (places n : ℕ) : IsDecimal places (Nat.toDigits 10 n) n := by
  have h : IsDecimal places _ _ := .whole (isWhole_toDigits n)
  rwa [decimalValue_toDigits] at h

theorem IsFraction.isDecimal (hf : IsFraction places f) (n : ℕ) :
    IsDecimal places (Nat.toDigits 10 n ++ '.' :: f) (n + decimalValue f / 10 ^ f.length) := by
  have h := IsDecimal.point (isWhole_toDigits n) hf
  rwa [decimalValue_toDigits] at h

theorem isDigit_of_mem_decimalDigits (h : c ∈ decimalDigits places n) : c.isDigit = true := by
  induction places generalizing n with
  | zero => cases h
  | succ places ih =>
    rcases List.mem_append.mp h with h | h
    · exact ih h
    · rw [List.mem_singleton.mp h, Nat.isDigit_digitChar, decide_eq_true_iff]
      exact Nat.mod_lt n (by decide)

theorem decimalValue_decimalDigits (places n : ℕ) :
    decimalValue (decimalDigits places n) = n % 10 ^ places := by
  induction places generalizing n with
  | zero => exact (Nat.mod_one n).symm
  | succ places ih =>
    have hlast := Nat.toNat_digitChar_sub_48_of_lt_ten (Nat.mod_lt n (show 0 < 10 by decide))
    have hsplit : decimalDigits (places + 1) n =
      decimalDigits places (n / 10) ++ [(n % 10).digitChar] := rfl
    rw [hsplit, decimalValue_concat, ih, hlast, pow_succ', Nat.mod_mul, add_comm]

end Text

namespace Fixed

open Text (IsDecimal IsFraction decimalValue)

variable {n places : ℕ} {x : Fixed}

/-! ### Digits of a fraction -/

theorem exists_fractionDigits_eq (hpos : 0 < n) (hn : n < 10 ^ places) :
    ∃ k m, fractionDigits places n = Text.decimalDigits (k + 1) m ∧ m % 10 ≠ 0 ∧
      m < 10 ^ (k + 1) ∧ m * 10 ^ places = n * 10 ^ (k + 1) := by
  induction places generalizing n with
  | zero => omega
  | succ places ih =>
    rw [fractionDigits]
    split
    · next hzero =>
      obtain ⟨k, m, hdigits, hlast, hm, hscale⟩ := @ih (n / 10) (by omega) (by omega)
      have hten : n / 10 * 10 = n := Nat.div_mul_cancel (Nat.dvd_of_mod_eq_zero hzero)
      refine ⟨k, m, hdigits, hlast, hm, ?_⟩
      calc m * 10 ^ (places + 1) = m * 10 ^ places * 10 := by rw [pow_succ, mul_assoc]
        _ = n / 10 * 10 * 10 ^ (k + 1) := by rw [hscale, Nat.mul_right_comm]
        _ = n * 10 ^ (k + 1) := by rw [hten]
    · next hlast => exact ⟨places, n, rfl, hlast, hn, rfl⟩

theorem isFraction_fractionDigits (hpos : 0 < n) (hn : n < 10 ^ places) :
    IsFraction places (fractionDigits places n) := by
  obtain ⟨k, m, hdigits, hlast, -, -⟩ := exists_fractionDigits_eq hpos hn
  have hle := length_fractionDigits_le places n
  rw [hdigits] at hle ⊢
  refine ⟨fun _ => Text.isDigit_of_mem_decimalDigits, ?_, hle, ?_⟩
  · exact List.ne_nil_of_length_eq_add_one (Text.length_digitPlaces ..)
  · rw [Text.decimalDigits, Text.digitPlaces, List.getLast?_concat, ne_eq, Option.some.injEq,
      Nat.digitChar_eq_zero]
    exact hlast

theorem decimalValue_fractionDigits (hpos : 0 < n) (hn : n < 10 ^ places) :
    (decimalValue (fractionDigits places n) : ℚ) / 10 ^ (fractionDigits places n).length =
      n / 10 ^ places := by
  obtain ⟨k, m, hdigits, -, hm, hscale⟩ := exists_fractionDigits_eq hpos hn
  rw [hdigits, Text.decimalValue_decimalDigits, Nat.mod_eq_of_lt hm, Text.decimalDigits,
    Text.length_digitPlaces, div_eq_div_iff (by positivity) (by positivity)]
  exact_mod_cast hscale

/-! ### The text of a number -/

theorem value_eq_add (x : Fixed) :
    x.value = (x.raw / scale : ℕ) + (x.raw % scale : ℕ) / 10 ^ 18 := by
  have hsplit : (scale : ℚ) * (x.raw / scale : ℕ) + (x.raw % scale : ℕ) = x.raw := by
    exact_mod_cast Nat.div_add_mod x.raw scale
  have hscale : (scale : ℚ) = 10 ^ 18 := by norm_num [scale]
  rw [value, ← hsplit, add_div, mul_div_cancel_left₀ _ scale_cast_pos.ne', hscale]

theorem isDecimal_decimalDigits (x : Fixed) : IsDecimal 18 x.decimalDigits x.value := by
  have hlt : x.raw % scale < 10 ^ 18 := Nat.mod_lt _ scale_pos
  rw [decimalDigits, value_eq_add]
  split
  · next h =>
    rw [h, Nat.cast_zero, zero_div, add_zero]
    exact Text.isDecimal_toDigits 18 _
  · next h =>
    have hpos := Nat.pos_of_ne_zero h
    rw [← decimalValue_fractionDigits hpos hlt]
    exact (isFraction_fractionDigits hpos hlt).isDecimal _

theorem raw_mod_scale_eq_zero_iff : x.raw % scale = 0 ↔ ∃ n : ℕ, x.value = n := by
  constructor
  · intro h
    refine ⟨x.raw / scale, ?_⟩
    rw [value_eq_add, h, Nat.cast_zero, zero_div, add_zero]
  · rintro ⟨n, hn⟩
    have hraw : x.raw = n * scale := by
      have hcast := x.value_mul_scale
      rw [hn] at hcast
      exact_mod_cast hcast.symm
    rw [hraw, Nat.mul_mod_left]

theorem point_notMem_decimalDigits_iff : '.' ∉ x.decimalDigits ↔ x.raw % scale = 0 := by
  rw [decimalDigits]
  split
  · next h => exact iff_of_true (Text.point_notMem (Text.isWhole_toDigits _).digits) h
  · next h => exact iff_of_false (by simp) h

/-- The text of a number is a numeral for just that number: no two numbers share one, and only those that
are not whole have a point in theirs. -/
theorem decimal_lossless (x y : Fixed) :
    IsDecimal 18 x.decimal.toList x.value ∧
      (x.decimal = y.decimal ↔ x = y) ∧
      ('.' ∉ x.decimal.toList ↔ ∃ n : ℕ, x.value = n) := by
  have hdigits : ∀ z : Fixed, z.decimal.toList = z.decimalDigits := fun _ => String.toList_ofList
  refine ⟨?_, ⟨fun h => ?_, congrArg decimal⟩, ?_⟩
  · rw [hdigits]
    exact isDecimal_decimalDigits x
  · have htext : x.decimalDigits = y.decimalDigits := String.ofList_injective h
    have hx := isDecimal_decimalDigits x
    rw [htext] at hx
    exact value_inj.mp (hx.unique (isDecimal_decimalDigits y))
  · rw [hdigits, point_notMem_decimalDigits_iff, raw_mod_scale_eq_zero_iff]

end Fixed

end BondingPool
