import Mathlib.Data.List.Forall2

/-!
# Answers that may be refusals

A request that is answered by steps is accepted when every step is, and refused with the cause of
the first step that is not.
-/

namespace BondingPool

variable {ε ε' α β : Type}

theorem ok_bind (a : α) (f : α → Except ε β) : (Except.ok a >>= f) = f a := rfl

theorem error_bind (e : ε) (f : α → Except ε β) : (Except.error e >>= f) = .error e := rfl

theorem bind_eq_ok_iff {x : Except ε α} {f : α → Except ε β} {b : β} :
    (x >>= f) = .ok b ↔ ∃ a, x = .ok a ∧ f a = .ok b := by
  cases x <;> simp [bind, Except.bind]

theorem bind_eq_error_iff {x : Except ε α} {f : α → Except ε β} {e : ε} :
    (x >>= f) = .error e ↔ x = .error e ∨ ∃ a, x = .ok a ∧ f a = .error e := by
  cases x <;> simp [bind, Except.bind]

theorem map_eq_ok_iff {x : Except ε α} {f : α → β} {b : β} :
    x.map f = .ok b ↔ ∃ a, x = .ok a ∧ f a = b := by
  cases x <;> simp [Except.map]

theorem map_eq_error_iff {x : Except ε α} {f : α → β} {e : ε} :
    x.map f = .error e ↔ x = .error e := by
  cases x <;> simp [Except.map]

theorem mapError_eq_ok_iff {x : Except ε α} {f : ε → ε'} {a : α} :
    x.mapError f = .ok a ↔ x = .ok a := by
  cases x with
  | error e => exact ⟨nofun, nofun⟩
  | ok b =>
    constructor
    · intro h
      exact congrArg Except.ok (Except.ok.inj h)
    · intro h
      exact congrArg Except.ok (Except.ok.inj h)

theorem mapError_eq_error_iff {x : Except ε α} {f : ε → ε'} {e : ε'} :
    x.mapError f = .error e ↔ ∃ cause, x = .error cause ∧ f cause = e := by
  cases x with
  | error cause =>
    constructor
    · intro h
      exact ⟨cause, rfl, Except.error.inj h⟩
    · rintro ⟨_, h, rfl⟩
      cases h
      rfl
  | ok a => exact ⟨nofun, nofun⟩

theorem eq_of_error_iff {x y : Except ε α} (herror : ∀ e, x = .error e ↔ y = .error e)
    (hok : ∀ a b, x = .ok a → y = .ok b → a = b) : x = y := by
  cases x with
  | error e => exact ((herror e).mp rfl).symm
  | ok a =>
    cases y with
    | error e => exact (herror e).mpr rfl
    | ok b => exact congrArg Except.ok (hok a b rfl rfl)

theorem exists_eq_ok {x : Except ε α} (h : ∀ e, x ≠ .error e) : ∃ a, x = .ok a := by
  cases x with
  | error e => exact absurd rfl (h e)
  | ok a => exact ⟨a, rfl⟩

/-! ### Lists answered item by item -/

section Lists

variable {γ : Type} {P : α → γ → Prop} {Q : β → γ → Prop} {R : α → β → Prop} {xs : List α}
  {ys : List β} {zs : List γ} {a : α}

theorem exists_mem_of_forall₂ (h : List.Forall₂ R xs ys) (ha : a ∈ xs) : ∃ b ∈ ys, R a b := by
  induction h with
  | nil => nomatch ha
  | cons hfirst _ ih =>
    rcases List.mem_cons.mp ha with rfl | ha
    · exact ⟨_, List.mem_cons_self, hfirst⟩
    · obtain ⟨b, hb, hab⟩ := ih ha
      exact ⟨b, List.mem_cons_of_mem _ hb, hab⟩

theorem forall₂_of_common (h : ∀ c ∈ zs, ∀ a b, P a c → Q b c → R a b) (hxs : List.Forall₂ P xs zs)
    (hys : List.Forall₂ Q ys zs) : List.Forall₂ R xs ys := by
  induction hxs generalizing ys with
  | nil =>
    cases hys
    exact .nil
  | cons hfirst _ ih =>
    cases hys with
    | cons hother hothers =>
      exact .cons (h _ List.mem_cons_self _ _ hfirst hother)
        (ih (fun c hc => h c (List.mem_cons_of_mem _ hc)) hothers)

end Lists

end BondingPool
