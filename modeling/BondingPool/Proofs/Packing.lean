import Mathlib.Data.Nat.Notation
import BondingPool.Encoding
import BondingPool.Proofs.Answer

/-!
# Packed curves are the lines

A byte string is cut into words of eight bytes, and a packed curve is read by its four words. So packing is one to
one onto the byte strings of 32 bytes whose words form a line, and any other byte string is refused for its length
or for the words that no line has.
-/

namespace BondingPool

namespace Bytes

variable {b : Bytes} {n : ℕ}

def wordAt (b : Bytes) (place : ℕ) : ℕ := ofLittleEndian ((b.drop (8 * place)).take 8)

theorem wordAt_succ (b : Bytes) (place : ℕ) : wordAt b (place + 1) = wordAt (b.drop 8) place := by
  rw [wordAt, wordAt, List.drop_drop, Nat.mul_succ, Nat.add_comm]

theorem wordAt_zero_append (hn : n < capacity 8) (b : Bytes) :
    wordAt (littleEndian 8 n ++ b) 0 = n := by
  have htake : (littleEndian 8 n ++ b).take 8 = littleEndian 8 n :=
    List.take_left' (length_littleEndian 8 n)
  rw [wordAt, Nat.mul_zero, List.drop_zero, htake, ofLittleEndian_littleEndian hn]

theorem wordAt_succ_append (n : ℕ) (b : Bytes) (place : ℕ) :
    wordAt (littleEndian 8 n ++ b) (place + 1) = wordAt b place := by
  rw [wordAt_succ, List.drop_left' (length_littleEndian 8 n)]

theorem flatMap_wordAt (h : b.length = 8 * n) :
    (List.range n).flatMap (fun place => littleEndian 8 (wordAt b place)) = b := by
  induction n generalizing b with
  | zero => exact (List.eq_nil_of_length_eq_zero h).symm
  | succ n ih =>
    have hrest : (b.drop 8).length = 8 * n := by
      rw [List.length_drop, h]
      omega
    have hfirst : littleEndian 8 (wordAt b 0) = b.take 8 := by
      have hlength : (b.take 8).length = 8 := List.length_take_of_le (by omega)
      have hread := littleEndian_ofLittleEndian (b.take 8)
      rwa [hlength] at hread
    rw [List.range_succ_eq_map, List.flatMap_cons, hfirst, List.flatMap_map]
    simp only [wordAt_succ]
    rw [ih hrest, List.take_append_drop]

end Bytes

namespace Word

theorem val_lt_capacity (w : Word) : w.val < Bytes.capacity 8 :=
  Nat.lt_of_le_of_lt w.val_le (by decide)

end Word

namespace PriceLine

variable {line : PriceLine} {b : Bytes} {fault : LineFault} {cause : CurveFault}

def packedTerms (b : Bytes) : Terms ℕ := ⟨b.wordAt 0, b.wordAt 1, b.wordAt 2, b.wordAt 3⟩

theorem packedTerms_pack (line : PriceLine) : packedTerms line.pack = line.terms := by
  have hpack : line.pack = Bytes.littleEndian 8 line.slope.num.val ++
      (Bytes.littleEndian 8 line.slope.den.val ++ (Bytes.littleEndian 8 line.base.num.val ++
        (Bytes.littleEndian 8 line.base.den.val ++ []))) := rfl
  simp only [packedTerms, hpack, Bytes.wordAt_zero_append, Bytes.wordAt_succ_append,
    Word.val_lt_capacity]
  rfl

theorem pack_eq_iff : line.pack = b ↔ b.length = 32 ∧ packedTerms b = line.terms := by
  constructor
  · rintro rfl
    exact ⟨line.length_pack, line.packedTerms_pack⟩
  · rintro ⟨hlength, hterms⟩
    have hwords := Bytes.flatMap_wordAt (n := 4) hlength
    rw [pack, ← hterms]
    exact hwords

theorem words_eq_iff {t : Terms Word} : line.words = t ↔ t.map (·.val) = line.terms := by
  constructor
  · rintro rfl
    rfl
  · intro h
    obtain ⟨hslope, hslope', hbase, hbase'⟩ := Terms.mk.inj h
    have hword {v w : Word} (h : v.val = w.val) : w = v := Word.ext_val h.symm
    exact Terms.mk.injEq .. ▸ ⟨hword hslope, hword hslope', hword hbase, hword hbase'⟩

theorem exists_unpack_eq (h : b.length = 32) :
    ∃ t : Terms Word, t.map (·.val) = packedTerms b ∧ unpack b = (ofWords t).mapError .line :=
  ⟨_, rfl, dif_pos h⟩

theorem unpack_of_length_ne (h : b.length ≠ 32) : unpack b = .error (.packedLength b.length) :=
  dif_neg h

theorem unpack_eq_ok_iff : unpack b = .ok line ↔ line.pack = b := by
  rw [pack_eq_iff]
  by_cases h : b.length = 32
  · obtain ⟨t, ht, hunpack⟩ := exists_unpack_eq h
    rw [hunpack, mapError_eq_ok_iff, ofWords_eq_ok_iff, words_eq_iff, ht, and_iff_right h]
  · rw [unpack_of_length_ne h]
    exact ⟨nofun, fun hline => absurd hline.1 h⟩

theorem unpack_eq_error_iff (h : b.length = 32) :
    unpack b = .error cause ↔
      b.wordAt 1 = 0 ∧ cause = .line (.zeroDenominator .slopeDenominator) ∨
      b.wordAt 1 ≠ 0 ∧ b.wordAt 3 = 0 ∧ cause = .line (.zeroDenominator .baseDenominator) ∨
      b.wordAt 1 ≠ 0 ∧ b.wordAt 3 ≠ 0 ∧ b.wordAt 0 = 0 ∧ b.wordAt 2 = 0 ∧ cause = .line .zeroPrice := by
  obtain ⟨t, ht, hunpack⟩ := exists_unpack_eq h
  obtain ⟨h0, h1, h2, h3⟩ := Terms.mk.inj ht
  have h0 : t.slopeNumerator.val = b.wordAt 0 := h0
  have h1 : t.slopeDenominator.val = b.wordAt 1 := h1
  have h2 : t.baseNumerator.val = b.wordAt 2 := h2
  have h3 : t.baseDenominator.val = b.wordAt 3 := h3
  rw [hunpack, mapError_eq_error_iff]
  simp only [ofWords_eq_error_iff, h0, h1, h2, h3, or_and_right, exists_or, and_assoc,
    exists_and_left, exists_eq_left, eq_comm (b := cause)]

theorem exists_unpack_iff :
    (∃ line, unpack b = .ok line) ↔
      b.length = 32 ∧ b.wordAt 1 ≠ 0 ∧ b.wordAt 3 ≠ 0 ∧ ¬ (b.wordAt 0 = 0 ∧ b.wordAt 2 = 0) := by
  constructor
  · rintro ⟨line, hline⟩
    obtain ⟨hlength, hterms⟩ := pack_eq_iff.mp (unpack_eq_ok_iff.mp hline)
    obtain ⟨h0, h1, h2, h3⟩ := Terms.mk.inj hterms
    rw [h0, h1, h2, h3]
    exact ⟨hlength, Nat.ne_of_gt line.slope.den_pos, Nat.ne_of_gt line.base.den_pos,
      Decidable.not_and_iff_not_or_not.mpr line.positive⟩
  · rintro ⟨hlength, hslope, hbase, hprice⟩
    refine exists_eq_ok fun cause hcause => ?_
    rcases (unpack_eq_error_iff hlength).mp hcause with ⟨h, -⟩ | ⟨-, h, -⟩ | ⟨-, -, h, h', -⟩
    · exact hslope h
    · exact hbase h
    · exact hprice ⟨h, h'⟩

/-- Packing is one to one onto the byte strings that are read, which are those of 32 bytes whose words have both
denominators and a price; all others are refused, the length before the words and the slope before the base. -/
theorem unpack_inverts_pack :
    (∀ line : PriceLine, unpack line.pack = .ok line ∧ line.pack.length = 32 ∧
      line.terms = ⟨line.pack.wordAt 0, line.pack.wordAt 1, line.pack.wordAt 2, line.pack.wordAt 3⟩) ∧
    ∀ b : Bytes,
      (∀ line, unpack b = .ok line ↔ line.pack = b) ∧
      ((∃ line, unpack b = .ok line) ↔
        b.length = 32 ∧ b.wordAt 1 ≠ 0 ∧ b.wordAt 3 ≠ 0 ∧ ¬ (b.wordAt 0 = 0 ∧ b.wordAt 2 = 0)) ∧
      ∀ cause, unpack b = .error cause ↔
        b.length ≠ 32 ∧ cause = .packedLength b.length ∨
        b.length = 32 ∧
          (b.wordAt 1 = 0 ∧ cause = .line (.zeroDenominator .slopeDenominator) ∨
            b.wordAt 1 ≠ 0 ∧ b.wordAt 3 = 0 ∧ cause = .line (.zeroDenominator .baseDenominator) ∨
            b.wordAt 1 ≠ 0 ∧ b.wordAt 3 ≠ 0 ∧ b.wordAt 0 = 0 ∧ b.wordAt 2 = 0 ∧
              cause = .line .zeroPrice) := by
  refine ⟨fun line => ⟨unpack_eq_ok_iff.mpr rfl, line.length_pack, line.packedTerms_pack.symm⟩,
    fun b => ⟨fun line => unpack_eq_ok_iff, exists_unpack_iff, fun cause => ?_⟩⟩
  by_cases h : b.length = 32
  · rw [unpack_eq_error_iff h]
    simp only [h, ne_eq, not_true_eq_false, false_and, false_or, true_and]
  · rw [unpack_of_length_ne h, Except.error.injEq, eq_comm]
    simp only [h, ne_eq, not_false_eq_true, true_and, false_and, or_false]

end PriceLine

end BondingPool
