import Mathlib.Data.Int.Notation
import Mathlib.Data.Nat.Notation
import BondingPool.Text.Numeral

/-!
# Which texts are numerals

A numeral is a run of digits of any script in which single underscores may stand between two digits, with
at most one sign before it. Said as a grammar, without the reader: what is read is exactly a numeral, and
its value is that of its digits. The decimal text of an integer is one of its numerals.
-/

namespace BondingPool.Text

variable {c : Char} {cs s : List Char} {d m n value : ℕ} {z : ℤ}

/-! ### Digits -/

theorem exists_start_of_digit? (h : digit? c = some d) :
    ∃ start ∈ zeroDigits, c.toNat = start + d ∧ d < 10 := by
  obtain ⟨start, hfound, hd⟩ := Option.map_eq_some_iff.mp h
  have hrange := List.find?_some hfound
  rw [Bool.and_eq_true, decide_eq_true_iff, decide_eq_true_iff] at hrange
  exact ⟨start, List.mem_of_find?_eq_some hfound, by omega, by omega⟩

theorem isBlank_of_digit? (h : digit? c = some d) : isBlank c = false := by
  have hapart : ∀ start ∈ zeroDigits, ∀ range ∈ blankRanges,
      start + 9 < range.1 ∨ range.2 < start := by decide
  obtain ⟨start, hstart, hcode, hd⟩ := exists_start_of_digit? h
  rw [isBlank, isBlankCode, within, List.any_eq_false]
  intro range hrange
  have hout := hapart start hstart range hrange
  rw [Bool.and_eq_true, decide_eq_true_iff, decide_eq_true_iff]
  omega

theorem digit?_digitChar : ∀ d < 10, digit? (Nat.digitChar d) = some d := by decide

theorem ne_of_digit? {mark : Char} (hmark : digit? mark = none) (h : digit? c = some d) :
    c ≠ mark := by
  rintro rfl
  rw [hmark] at h
  nomatch h

/-- Digits with at most one underscore between any two of them, and the value in decimal. -/
inductive IsDigits : List Char → ℕ → Prop
  | one {c : Char} {d : ℕ} (h : digit? c = some d) : IsDigits [c] d
  | next {cs : List Char} {n : ℕ} {c : Char} {d : ℕ} (hcs : IsDigits cs n)
    (h : digit? c = some d) : IsDigits (cs ++ [c]) (10 * n + d)
  | apart {cs : List Char} {n : ℕ} {c : Char} {d : ℕ} (hcs : IsDigits cs n)
    (h : digit? c = some d) : IsDigits (cs ++ ['_', c]) (10 * n + d)

theorem digitsAfter?_cons (h : digit? c = some d) (value : ℕ) (s : List Char) :
    digitsAfter? value (c :: s) = digitsAfter? (10 * value + d) s := by
  rw [digitsAfter?, h, Option.bind_eq_bind, Option.bind_some]
  intro _ _ hmark _
  exact ne_of_digit? (by decide) h hmark

theorem digitsAfter?_apart (h : digit? c = some d) (value : ℕ) (s : List Char) :
    digitsAfter? value ('_' :: c :: s) = digitsAfter? (10 * value + d) s := by
  rw [digitsAfter?, h, Option.bind_eq_bind, Option.bind_some]

theorem digitsAfter?_append (h : digitsAfter? value cs = some m) (s : List Char) :
    digitsAfter? value (cs ++ s) = digitsAfter? m s := by
  fun_induction digitsAfter? value cs with
  | case1 value =>
    cases h
    rfl
  | case2 value c rest ih =>
    rw [Option.bind_eq_bind] at h
    obtain ⟨d, hd, hrest⟩ := Option.bind_eq_some_iff.mp h
    rw [List.cons_append, List.cons_append, digitsAfter?_apart hd, ih d hrest]
  | case3 value c rest _ ih =>
    rw [Option.bind_eq_bind] at h
    obtain ⟨d, hd, hrest⟩ := Option.bind_eq_some_iff.mp h
    rw [List.cons_append, digitsAfter?_cons hd, ih d hrest]

theorem natural?_append (h : natural? cs = some n) (s : List Char) :
    natural? (cs ++ s) = digitsAfter? n s := by
  cases cs with
  | nil => nomatch h
  | cons c rest =>
    obtain ⟨d, hd, hrest⟩ := Option.bind_eq_some_iff.mp h
    rw [List.cons_append, natural?, hd, Option.bind_eq_bind, Option.bind_some,
      digitsAfter?_append hrest]

theorem IsDigits.natural?_eq (h : IsDigits cs n) : natural? cs = some n := by
  induction h with
  | one hd => rw [natural?, hd, Option.bind_eq_bind, Option.bind_some, digitsAfter?]
  | next _ hd ih => rw [natural?_append ih, digitsAfter?_cons hd, digitsAfter?]
  | apart _ hd ih => rw [natural?_append ih, digitsAfter?_apart hd, digitsAfter?]

theorem IsDigits.append (hcs : IsDigits cs value) (h : digitsAfter? value s = some n) :
    IsDigits (cs ++ s) n := by
  fun_induction digitsAfter? value s generalizing cs with
  | case1 value =>
    cases h
    rwa [List.append_nil]
  | case2 value c rest ih =>
    rw [Option.bind_eq_bind] at h
    obtain ⟨d, hd, hrest⟩ := Option.bind_eq_some_iff.mp h
    have hmore := ih d (hcs.apart hd) hrest
    rwa [List.append_assoc] at hmore
  | case3 value c rest _ ih =>
    rw [Option.bind_eq_bind] at h
    obtain ⟨d, hd, hrest⟩ := Option.bind_eq_some_iff.mp h
    have hmore := ih d (hcs.next hd) hrest
    rwa [List.append_assoc] at hmore

theorem natural?_eq_some_iff : natural? cs = some n ↔ IsDigits cs n := by
  constructor
  · intro h
    cases cs with
    | nil => nomatch h
    | cons c rest =>
      obtain ⟨d, hd, hrest⟩ := Option.bind_eq_some_iff.mp h
      exact (IsDigits.one hd).append hrest
  · exact IsDigits.natural?_eq

theorem IsDigits.exists_first (h : IsDigits cs n) :
    ∃ c d, cs.head? = some c ∧ digit? c = some d := by
  induction h with
  | one hd => exact ⟨_, _, rfl, hd⟩
  | next _ _ ih =>
    obtain ⟨c, d, hc, hd⟩ := ih
    exact ⟨c, d, by rw [List.head?_append, hc, Option.some_or], hd⟩
  | apart _ _ ih =>
    obtain ⟨c, d, hc, hd⟩ := ih
    exact ⟨c, d, by rw [List.head?_append, hc, Option.some_or], hd⟩

theorem IsDigits.mem (h : IsDigits cs n) : ∀ c ∈ cs, c = '_' ∨ ∃ d, digit? c = some d := by
  induction h with
  | one hd => exact List.forall_mem_singleton.mpr (.inr ⟨_, hd⟩)
  | next _ hd ih =>
    exact List.forall_mem_append.mpr ⟨ih, List.forall_mem_singleton.mpr (.inr ⟨_, hd⟩)⟩
  | apart _ hd ih =>
    refine List.forall_mem_append.mpr ⟨ih, List.forall_mem_cons.mpr ⟨.inl rfl, ?_⟩⟩
    exact List.forall_mem_singleton.mpr (.inr ⟨_, hd⟩)

theorem isDigits_repr (n : ℕ) : IsDigits (Nat.repr n).toList n := by
  rw [Nat.repr_eq_ofList_toDigits, String.toList_ofList]
  induction n using Nat.strongRecOn with
  | ind n ih =>
    rcases Nat.lt_or_ge n 10 with hsmall | hlarge
    · rw [Nat.toDigits_of_lt_base hsmall]
      exact .one (digit?_digitChar n hsmall)
    · have hlast := digit?_digitChar (n % 10) (Nat.mod_lt n (by decide))
      have hmore := (ih (n / 10) (Nat.div_lt_self (by omega) (by decide))).next hlast
      rwa [Nat.div_add_mod, ← Nat.toDigits_of_base_le (by decide) hlarge] at hmore

/-! ### Signs -/

/-- Digits with at most one sign before them, and the integer that they stand for. -/
inductive IsNumeral : List Char → ℤ → Prop
  | plain {cs : List Char} {n : ℕ} (h : IsDigits cs n) : IsNumeral cs n
  | plus {cs : List Char} {n : ℕ} (h : IsDigits cs n) : IsNumeral ('+' :: cs) n
  | minus {cs : List Char} {n : ℕ} (h : IsDigits cs n) : IsNumeral ('-' :: cs) (-n)

theorem IsDigits.signed?_eq (h : IsDigits cs n) : signed? cs = some (n : ℤ) := by
  obtain ⟨c, d, hc, hd⟩ := h.exists_first
  cases cs with
  | nil => nomatch hc
  | cons c' rest =>
    cases hc
    rw [signed?, h.natural?_eq]
    · rfl
    · intro _ hplus
      exact ne_of_digit? (by decide) hd (List.cons.inj hplus).1
    · intro _ hminus
      exact ne_of_digit? (by decide) hd (List.cons.inj hminus).1

theorem signed?_eq_some_iff : signed? cs = some z ↔ IsNumeral cs z := by
  constructor
  · intro h
    unfold signed? at h
    split at h
    · obtain ⟨n, hn, rfl⟩ := Option.map_eq_some_iff.mp h
      exact .plus (natural?_eq_some_iff.mp hn)
    · obtain ⟨_, hlift, rfl⟩ := Option.map_eq_some_iff.mp h
      obtain ⟨n, hn, hcast⟩ := Option.bind_eq_some_iff.mp hlift
      cases hcast
      exact .minus (natural?_eq_some_iff.mp hn)
    · obtain ⟨n, hn, rfl⟩ := Option.map_eq_some_iff.mp h
      exact .plain (natural?_eq_some_iff.mp hn)
  · intro h
    cases h with
    | plain h => exact h.signed?_eq
    | plus h => rw [signed?, h.natural?_eq]; rfl
    | minus h => rw [signed?, h.natural?_eq]; rfl

theorem isNumeral_toString (z : ℤ) : IsNumeral (toString z).toList z := by
  rw [Int.toString_eq_repr]
  cases z with
  | ofNat n => exact .plain (isDigits_repr n)
  | negSucc n =>
    rw [Int.repr, String.toList_append]
    exact .minus (isDigits_repr n.succ)

end BondingPool.Text
