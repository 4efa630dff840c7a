import Mathlib.Data.List.Pairwise
import Mathlib.Tactic.ByContra
import BondingPool.Value

/-!
# Which keys have an order

Values sort only among their own kind: numbers with numbers and truth values, texts with texts. A
list of keys is put in ascending order one insertion at a time, and each insertion compares the new
key with the least one so far, so a single key of another kind leaves the whole list without an
order.
-/

namespace BondingPool.Value

/-- The kinds of values that can be compared among themselves. -/
inductive OrderKind
  | number
  | text
  | bytes
  | tuple
  | date
  | moment
  deriving DecidableEq, Repr

def orderKind? : Value → Option OrderKind
  | .bool _ => some .number
  | .int _ => some .number
  | .float _ => some .number
  | .text _ => some .text
  | .bytes _ => some .bytes
  | .tuple _ => some .tuple
  | .date _ => some .date
  | .moment _ => some .moment
  | .null => none
  | .list _ => none
  | .dict _ => none

def SharesKind (v w : Value) : Prop :=
  ∃ kind, v.orderKind? = some kind ∧ w.orderKind? = some kind

variable {v w : Value} {vs ws : List Value} {b : Bool}

/-! ### Two values -/

theorem SharesKind.symm (h : v.SharesKind w) : w.SharesKind v := by
  obtain ⟨kind, hv, hw⟩ := h
  exact ⟨kind, hw, hv⟩

instance : Std.Symm SharesKind := ⟨fun _ _ => SharesKind.symm⟩

theorem SharesKind.trans {u : Value} (h : u.SharesKind v) (h' : v.SharesKind w) :
    u.SharesKind w := by
  obtain ⟨kind, hu, hv⟩ := h
  obtain ⟨kind', hv', hw⟩ := h'
  have hkind : kind' = kind := Option.some.inj (hv'.symm.trans hv)
  exact ⟨kind, hu, hkind ▸ hw⟩

theorem orderKind?_of_number? {n : Number} (h : v.number? = some n) :
    v.orderKind? = some .number := by
  cases v with
  | bool => rfl
  | int => rfl
  | float => rfl
  | _ => simp [number?] at h

theorem sharesKind_of_before? (h : v.before? w = some b) : v.SharesKind w := by
  unfold before? at h
  split at h
  · exact ⟨.text, rfl, rfl⟩
  · exact ⟨.bytes, rfl, rfl⟩
  · exact ⟨.date, rfl, rfl⟩
  · exact ⟨.moment, rfl, rfl⟩
  · exact ⟨.tuple, rfl, rfl⟩
  · split at h
    · next hv hw => exact ⟨.number, orderKind?_of_number? hv, orderKind?_of_number? hw⟩
    · nomatch h

/-! ### Lists of values -/

theorem insertSorted?_perm (h : insertSorted? v ws = some vs) : vs.Perm (v :: ws) := by
  induction ws generalizing vs with
  | nil =>
    cases h
    exact .refl _
  | cons w rest ih =>
    rw [insertSorted?, Option.bind_eq_bind, Option.bind_eq_some_iff] at h
    obtain ⟨first, -, h⟩ := h
    cases first with
    | false =>
      cases h
      exact .refl _
    | true =>
      rw [if_pos rfl, Option.bind_eq_bind, Option.bind_eq_some_iff] at h
      obtain ⟨inserted, hrest, h⟩ := h
      cases h
      exact ((ih hrest).cons w).trans (.swap v w rest)

theorem sort?_perm (h : sort? vs = some ws) : ws.Perm vs := by
  induction vs generalizing ws with
  | nil =>
    cases h
    exact .refl _
  | cons v rest ih =>
    rw [sort?, Option.bind_eq_bind, Option.bind_eq_some_iff] at h
    obtain ⟨sorted, hrest, hinsert⟩ := h
    exact (insertSorted?_perm hinsert).trans ((ih hrest).cons v)

theorem sort?_eq_some_nil_iff : sort? vs = some [] ↔ vs = [] := by
  constructor
  · intro h
    exact List.perm_nil.mp (sort?_perm h).symm
  · rintro rfl
    rfl

theorem sharesKind_of_insertSorted? (h : insertSorted? v (w :: ws) = some vs) :
    v.SharesKind w := by
  rw [insertSorted?, Option.bind_eq_bind, Option.bind_eq_some_iff] at h
  obtain ⟨first, hbefore, -⟩ := h
  exact (sharesKind_of_before? hbefore).symm

theorem pairwise_sharesKind_of_sort? (h : sort? vs = some ws) : vs.Pairwise SharesKind := by
  induction vs generalizing ws with
  | nil => exact .nil
  | cons v rest ih =>
    rw [sort?, Option.bind_eq_bind, Option.bind_eq_some_iff] at h
    obtain ⟨sorted, hrest, hinsert⟩ := h
    have hperm := sort?_perm hrest
    refine .cons (fun u hu => ?_) (ih hrest)
    cases sorted with
    | nil => exact absurd (hperm.mem_iff.mpr hu) List.not_mem_nil
    | cons least others =>
      -- the new value is compared with the least of the others, which all share its kind already
      have hleast : v.SharesKind least := sharesKind_of_insertSorted? hinsert
      have hmem : least ∈ rest := hperm.mem_iff.mp List.mem_cons_self
      by_cases heq : least = u
      · exact heq ▸ hleast
      · exact hleast.trans ((ih hrest).forall hmem hu heq)

theorem sort?_eq_none_of_kinds (hv : v ∈ vs) (hw : w ∈ vs) (hne : v ≠ w)
    (hkinds : ¬ v.SharesKind w) : sort? vs = none := by
  cases h : sort? vs with
  | none => rfl
  | some ws =>
    have hpairwise := pairwise_sharesKind_of_sort? h
    exact absurd (hpairwise.forall hv hw hne) hkinds

theorem exists_insertSorted? (h : ∀ w ∈ ws, w.before? v ≠ none) :
    ∃ vs, insertSorted? v ws = some vs := by
  induction ws with
  | nil => exact ⟨_, rfl⟩
  | cons w rest ih =>
    obtain ⟨first, hbefore⟩ := Option.ne_none_iff_exists'.mp (h w List.mem_cons_self)
    obtain ⟨inserted, hrest⟩ := ih fun u hu => h u (List.mem_cons_of_mem w hu)
    rw [insertSorted?, hbefore, Option.bind_eq_bind, Option.bind_some]
    cases first with
    | false => exact ⟨_, rfl⟩
    | true => exact ⟨w :: inserted, by rw [hrest]; rfl⟩

theorem exists_sort? (h : ∀ v ∈ vs, ∀ w ∈ vs, v.before? w ≠ none) : ∃ ws, sort? vs = some ws := by
  induction vs with
  | nil => exact ⟨_, rfl⟩
  | cons v rest ih =>
    obtain ⟨sorted, hrest⟩ := ih fun u hu w hw =>
      h u (List.mem_cons_of_mem v hu) w (List.mem_cons_of_mem v hw)
    obtain ⟨inserted, hinsert⟩ : ∃ vs, insertSorted? v sorted = some vs :=
      exists_insertSorted? fun w hw =>
        h w (List.mem_cons_of_mem v ((sort?_perm hrest).mem_iff.mp hw)) v List.mem_cons_self
    exact ⟨inserted, by rw [sort?, hrest]; exact hinsert⟩

theorem exists_before?_eq_none (h : sort? vs = none) :
    ∃ v ∈ vs, ∃ w ∈ vs, v.before? w = none := by
  by_contra! hcomparable
  obtain ⟨ws, hws⟩ := exists_sort? hcomparable
  rw [h] at hws
  nomatch hws

end BondingPool.Value
