import Mathlib.Data.List.DropRight
import BondingPool.Text.Basic

/-!
# Trimming and splitting

A text is its trimmed text with blanks padded to both ends, and trimming takes off just that padding. A text
is split into two pieces where it holds one separator, which stands between them.
-/

namespace BondingPool

namespace Text

variable {α : Type} {blank : α → Bool} {a b s t u v : List α} {ts : List (List α)}

/-! ### Trimming -/

theorem trim_eq_rdropWhile : trim blank t = (t.dropWhile blank).rdropWhile blank := rfl

theorem head?_trim : (trim blank t).head? = (t.dropWhile blank).head? := by
  rw [trim_eq_rdropWhile]
  have hfirst := List.head?_dropWhile_not blank t
  cases hdrop : t.dropWhile blank with
  | nil => rw [List.rdropWhile_nil]
  | cons c rest =>
    rw [hdrop] at hfirst
    obtain ⟨blanks, hsplit⟩ := List.rdropWhile_prefix blank (c :: rest)
    cases hkept : (c :: rest).rdropWhile blank with
    | nil =>
      have hblank := List.rdropWhile_eq_nil_iff.mp hkept c List.mem_cons_self
      exact absurd (hblank.symm.trans hfirst) (by decide)
    | cons d others =>
      rw [hkept] at hsplit
      exact congrArg some (List.cons.inj hsplit).1

/-- No blank stands at either end. -/
structure IsTrimmed (blank : α → Bool) (t : List α) : Prop where
  first : ∀ c ∈ t.head?, blank c = false
  last : ∀ c ∈ t.getLast?, blank c = false

theorem isTrimmed_of_forall (h : ∀ c ∈ t, blank c = false) : IsTrimmed blank t where
  first c hc := h c (List.mem_of_head? hc)
  last c hc := h c (List.mem_of_getLast? hc)

theorem IsTrimmed.append (hs : IsTrimmed blank s) (hu : IsTrimmed blank u) (hs' : s ≠ []) (hu' : u ≠ [])
    (t : List α) : IsTrimmed blank (s ++ t ++ u) where
  first c hc := by
    rw [List.append_assoc, List.head?_append_of_ne_nil s hs'] at hc
    exact hs.first c hc
  last c hc := by
    rw [List.getLast?_append_of_ne_nil _ hu'] at hc
    exact hu.last c hc

theorem dropWhile_pad (ha : ∀ c ∈ a, blank c = true) (hs : ∀ c ∈ s.head?, blank c = false) :
    (a ++ s).dropWhile blank = s := by
  rw [List.dropWhile_append_of_pos ha]
  cases s with
  | nil => rfl
  | cons c rest => rw [List.dropWhile_cons_of_neg (by simp [hs c rfl])]

theorem trim_pad (ha : ∀ c ∈ a, blank c = true) (hs : IsTrimmed blank s)
    (hb : ∀ c ∈ b, blank c = true) : trim blank (a ++ s ++ b) = s := by
  cases s with
  | nil =>
    have hall : ∀ c ∈ a ++ [] ++ b, blank c = true := by
      rw [List.append_nil]
      exact List.forall_mem_append.mpr ⟨ha, hb⟩
    rw [trim, List.dropWhile_eq_nil_iff.mpr hall]
    rfl
  | cons c rest =>
    have hfront : (a ++ (c :: rest ++ b)).dropWhile blank = c :: rest ++ b :=
      dropWhile_pad ha fun _ hc => hs.first _ hc
    have hback : (b.reverse ++ (c :: rest).reverse).dropWhile blank = (c :: rest).reverse := by
      refine dropWhile_pad (fun c hc => hb c (List.mem_reverse.mp hc)) fun c hc => ?_
      rw [List.head?_reverse] at hc
      exact hs.last c hc
    rw [trim, List.append_assoc, hfront, List.reverse_append, hback, List.reverse_reverse]

theorem trim_of_isTrimmed (h : IsTrimmed blank t) : trim blank t = t := by
  have hpad := @trim_pad α blank [] [] t nofun h nofun
  rwa [List.nil_append, List.append_nil] at hpad

theorem head?_dropWhile_blank (t : List α) : ∀ c ∈ (t.dropWhile blank).head?, blank c = false := by
  intro c hc
  have hfirst := List.head?_dropWhile_not blank t
  rwa [Option.mem_def.mp hc] at hfirst

theorem isTrimmed_trim (blank : α → Bool) (t : List α) : IsTrimmed blank (trim blank t) where
  first c hc := by
    rw [head?_trim] at hc
    exact head?_dropWhile_blank t c hc
  last c hc := by
    rw [trim, List.getLast?_reverse] at hc
    exact head?_dropWhile_blank _ c hc

theorem exists_pad (blank : α → Bool) (t : List α) :
    ∃ a b, t = a ++ trim blank t ++ b ∧ (∀ c ∈ a, blank c = true) ∧ ∀ c ∈ b, blank c = true := by
  refine ⟨t.takeWhile blank, (t.dropWhile blank).rtakeWhile blank, ?_, ?_, ?_⟩
  · rw [trim_eq_rdropWhile, List.append_assoc, List.rdropWhile_append_rtakeWhile,
      List.takeWhile_append_dropWhile]
  · intro c hc
    exact List.mem_takeWhile_imp hc
  · intro c hc
    exact List.mem_rtakeWhile_imp hc

/-! ### Splitting -/

variable [DecidableEq α] {mark : α}

theorem split_ne_nil (mark : α) (t : List α) : split mark t ≠ [] := by
  cases t with
  | nil => nofun
  | cons c t =>
    rw [split]
    split
    · nofun
    · split <;> nofun

theorem split_cons_of_ne {c : α} (h : c ≠ mark) (hsplit : split mark t = u :: ts) :
    split mark (c :: t) = (c :: u) :: ts := by
  rw [split, if_neg h, hsplit]

theorem split_of_notMem (h : mark ∉ t) : split mark t = [t] := by
  induction t with
  | nil => rfl
  | cons c t ih =>
    rw [List.mem_cons, not_or] at h
    exact split_cons_of_ne (Ne.symm h.1) (ih h.2)

theorem split_append (h : mark ∉ u) (v : List α) :
    split mark (u ++ mark :: v) = u :: split mark v := by
  induction u with
  | nil => exact if_pos rfl
  | cons c u ih =>
    rw [List.mem_cons, not_or] at h
    exact split_cons_of_ne (Ne.symm h.1) (ih h.2)

theorem split_eq_pair_iff :
    split mark t = [u, v] ↔ t = u ++ mark :: v ∧ mark ∉ u ∧ mark ∉ v := by
  constructor
  · intro h
    by_cases hmark : mark ∈ t
    · obtain ⟨front, back, rfl, hfront⟩ := List.eq_append_cons_of_mem hmark
      rw [split_append hfront] at h
      obtain ⟨rfl, hback⟩ := List.cons.inj h
      by_cases hagain : mark ∈ back
      · obtain ⟨middle, last, rfl, hmiddle⟩ := List.eq_append_cons_of_mem hagain
        rw [split_append hmiddle] at hback
        exact absurd (List.cons.inj hback).2 (split_ne_nil mark last)
      · rw [split_of_notMem hagain] at hback
        exact ⟨by rw [(List.cons.inj hback).1], hfront, (List.cons.inj hback).1 ▸ hagain⟩
    · rw [split_of_notMem hmark] at h
      nomatch h
  · rintro ⟨rfl, hu, hv⟩
    rw [split_append hu, split_of_notMem hv]

end Text

end BondingPool
