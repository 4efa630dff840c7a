import Mathlib
import BondingPool.Json

/-!
# A document is read back from its text

The text of a document determines the document, and where it ends in a longer text: the character that
opens a piece tells its kind, a numeral goes on as long as there are digits, a quoted text ends at the
first quote that is not escaped, and a list or mapping goes on as long as there are commas. So nothing
of one piece can be taken for a part of another.
-/

namespace BondingPool

theorem Bytes.utf8_injective {cs ds : List Char} (h : utf8 cs = utf8 ds) : cs = ds := by
  apply String.ofList_injective
  apply String.toByteArray_inj.mp
  rw [String.toByteArray_ofList, String.toByteArray_ofList]
  exact List.toByteArray_inj.mpr h

namespace Json

variable {style : Style} {s t : List Char}

/-! ### Numerals -/

def isNumeralMark (c : Char) : Bool := c.isDigit || c == '-'

def EndsNumeral (s : List Char) : Prop := ∀ c ∈ s.head?, isNumeralMark c = false

theorem isDigit_of_mem_repr {n : ℕ} {c : Char} (hc : c ∈ (Nat.repr n).toList) :
    c.isDigit = true := by
  rw [Nat.repr_eq_ofList_toDigits, String.toList_ofList] at hc
  exact Nat.isDigit_of_mem_toDigits (by decide) (by decide) hc

theorem isNumeralMark_of_mem {n : ℤ} {c : Char} (hc : c ∈ (toString n).toList) :
    isNumeralMark c = true := by
  rw [Int.toString_eq_repr] at hc
  cases n with
  | ofNat m => simp [isNumeralMark, isDigit_of_mem_repr hc]
  | negSucc m =>
    rw [Int.repr, String.toList_append] at hc
    rcases List.mem_append.mp hc with hc | hc
    · rw [List.mem_singleton.mp hc]
      decide
    · simp [isNumeralMark, isDigit_of_mem_repr hc]

theorem numeral_ne_nil (n : ℤ) : (toString n).toList ≠ [] := by
  have hnat : ∀ m : ℕ, (Nat.repr m).toList ≠ [] := by
    intro m
    rw [Nat.repr_eq_ofList_toDigits, String.toList_ofList]
    exact Nat.toDigits_ne_nil
  rw [Int.toString_eq_repr]
  cases n with
  | ofNat m => exact hnat m
  | negSucc m =>
    rw [Int.repr, String.toList_append]
    exact List.append_ne_nil_of_right_ne_nil _ (hnat m.succ)

theorem takeWhile_numeral_append (n : ℤ) (hs : EndsNumeral s) :
    ((toString n).toList ++ s).takeWhile isNumeralMark = (toString n).toList := by
  rw [List.takeWhile_append_of_pos fun _ => isNumeralMark_of_mem]
  cases s with
  | nil => simp
  | cons c s => simp [hs c rfl]

theorem numeral_append_inj {m n : ℤ} (hs : EndsNumeral s) (ht : EndsNumeral t)
    (h : (toString m).toList ++ s = (toString n).toList ++ t) : m = n ∧ s = t := by
  have hnumeral : (toString m).toList = (toString n).toList := by
    rw [← takeWhile_numeral_append m hs, h, takeWhile_numeral_append n ht]
  rw [hnumeral] at h
  exact ⟨Int.repr_inj.mp (String.toList_inj.mp hnumeral), List.append_cancel_left h⟩

/-! ### Quoted texts -/

def hexValue (c : Char) : ℕ := if c.isDigit then c.toNat - 0x30 else c.toNat - 0x57

def ofLetter (c : Char) : Char :=
  if c = 'b' then Char.ofNat 0x08
  else if c = 'f' then Char.ofNat 0x0C
  else if c = 'n' then Char.ofNat 0x0A
  else if c = 'r' then Char.ofNat 0x0D
  else if c = 't' then Char.ofNat 0x09
  else c

def ofEscape : List Char → Char × List Char
  | 'u' :: _ :: _ :: x :: y :: rest => (Char.ofNat (16 * hexValue x + hexValue y), rest)
  | c :: rest => (ofLetter c, rest)
  | [] => ('\\', [])

def unescape : List Char → Char × List Char
  | c :: rest => if c = '\\' then ofEscape rest else (c, rest)
  | [] => ('\\', [])

theorem hexValue_digitChar : ∀ n < 16, hexValue (Nat.digitChar n) = n := by decide

theorem unescape_escape_append (c : Char) (s : List Char) : unescape (escape c ++ s) = (c, s) := by
  have hcode : ∀ n, c.toNat = n → c = Char.ofNat n := fun n h => h ▸ (Char.ofNat_toNat c).symm
  unfold escape
  split_ifs with hquote hslash hplain hb hf hn hr ht
  · rw [hquote]
    rfl
  · rw [hslash]
    rfl
  · exact if_neg hslash
  · rw [hcode _ hb]
    rfl
  · rw [hcode _ hf]
    rfl
  · rw [hcode _ hn]
    rfl
  · rw [hcode _ hr]
    rfl
  · rw [hcode _ ht]
    rfl
  · have hhigh := hexValue_digitChar (c.toNat / 16) (by omega)
    have hlow := hexValue_digitChar (c.toNat % 16) (by omega)
    have hread : ofEscape ('u' :: '0' :: '0' :: Nat.digitChar (c.toNat / 16) ::
        Nat.digitChar (c.toNat % 16) :: s) = (c, s) := by
      rw [ofEscape, hhigh, hlow, Nat.div_add_mod, Char.ofNat_toNat]
    exact hread

theorem escape_append_inj {c d : Char} (h : escape c ++ s = escape d ++ t) : c = d ∧ s = t := by
  have hread := congrArg unescape h
  rw [unescape_escape_append, unescape_escape_append] at hread
  exact Prod.mk.inj hread

theorem escape_append_ne_quote (c : Char) : escape c ++ s ≠ '"' :: t := by
  intro h
  have hread := congrArg unescape h
  rw [unescape_escape_append] at hread
  obtain ⟨rfl, -⟩ := Prod.mk.inj hread
  exact absurd (List.cons.inj h).1 (by decide)

theorem escaped_append_inj {cs ds : List Char}
    (h : cs.flatMap escape ++ '"' :: s = ds.flatMap escape ++ '"' :: t) : cs = ds ∧ s = t := by
  induction cs generalizing ds with
  | nil =>
    cases ds with
    | nil => exact ⟨rfl, (List.cons.inj h).2⟩
    | cons d ds =>
      rw [List.flatMap_cons, List.append_assoc] at h
      exact absurd h.symm (escape_append_ne_quote d)
  | cons c cs ih =>
    rw [List.flatMap_cons, List.append_assoc] at h
    cases ds with
    | nil => exact absurd h (escape_append_ne_quote c)
    | cons d ds =>
      rw [List.flatMap_cons, List.append_assoc] at h
      obtain ⟨rfl, hrest⟩ := escape_append_inj h
      obtain ⟨rfl, hst⟩ := ih hrest
      exact ⟨rfl, hst⟩

theorem quote_append_inj {cs ds : List Char} (h : quote cs ++ s = quote ds ++ t) :
    cs = ds ∧ s = t := by
  simp only [quote, List.cons_append, List.append_assoc, List.nil_append] at h
  exact escaped_append_inj (List.cons.inj h).2

/-! ### Pieces between commas -/

section Pieces

variable {α : Type} {f : α → List Char} {xs ys : List α} {comma : List Char} {close : Char}

def EndsItself (f : α → List Char) (x : α) : Prop :=
  ∀ y s t, EndsNumeral s → EndsNumeral t → f x ++ s = f y ++ t → x = y ∧ s = t

theorem separated_cons (comma x : List Char) (rest : List (List Char)) :
    separated comma (x :: rest) = x ++ rest.flatMap (comma ++ ·) := by
  induction rest generalizing x with
  | nil => simp [separated]
  | cons y rest ih =>
    rw [separated, ih, List.flatMap_cons, List.append_assoc, List.append_assoc]
    nofun

theorem endsNumeral_pieces (hclose : isNumeralMark close = false) (pieces : List (List Char))
    (s : List Char) : EndsNumeral (pieces.flatMap ((',' :: comma) ++ ·) ++ close :: s) := by
  intro c hc
  cases pieces with
  | nil =>
    cases hc
    exact hclose
  | cons piece pieces =>
    cases hc
    decide

theorem pieces_append_inj (hclose : isNumeralMark close = false) (hcomma : close ≠ ',')
    (hxs : ∀ x ∈ xs, EndsItself f x)
    (h : (xs.map f).flatMap ((',' :: comma) ++ ·) ++ close :: s =
      (ys.map f).flatMap ((',' :: comma) ++ ·) ++ close :: t) : xs = ys ∧ s = t := by
  induction xs generalizing ys with
  | nil =>
    cases ys with
    | nil => exact ⟨rfl, (List.cons.inj h).2⟩
    | cons y ys => exact absurd (List.cons.inj h).1 hcomma
  | cons x xs ih =>
    cases ys with
    | nil => exact absurd (List.cons.inj h).1.symm hcomma
    | cons y ys =>
      simp only [List.map_cons, List.flatMap_cons, List.append_assoc, List.append_cancel_left_eq] at h
      obtain ⟨rfl, hrest⟩ := hxs x (List.mem_cons_self ..) y _ _
        (endsNumeral_pieces hclose _ s) (endsNumeral_pieces hclose _ t) h
      obtain ⟨rfl, hst⟩ := ih (fun z hz => hxs z (List.mem_cons_of_mem _ hz)) hrest
      exact ⟨rfl, hst⟩

theorem separated_append_inj (hclose : isNumeralMark close = false) (hcomma : close ≠ ',')
    (hopen : ∀ x u v, f x ++ u ≠ close :: v) (hxs : ∀ x ∈ xs, EndsItself f x)
    (h : separated (',' :: comma) (xs.map f) ++ close :: s =
      separated (',' :: comma) (ys.map f) ++ close :: t) : xs = ys ∧ s = t := by
  cases xs with
  | nil =>
    cases ys with
    | nil => exact ⟨rfl, (List.cons.inj h).2⟩
    | cons y ys =>
      rw [List.map_cons, separated_cons, List.append_assoc] at h
      exact absurd h.symm (hopen y _ _)
  | cons x xs =>
    rw [List.map_cons, separated_cons, List.append_assoc] at h
    cases ys with
    | nil => exact absurd h (hopen x _ _)
    | cons y ys =>
      rw [List.map_cons, separated_cons, List.append_assoc] at h
      obtain ⟨rfl, hrest⟩ := hxs x (List.mem_cons_self ..) y _ _
        (endsNumeral_pieces hclose _ s) (endsNumeral_pieces hclose _ t) h
      obtain ⟨rfl, hst⟩ :=
        pieces_append_inj hclose hcomma (fun z hz => hxs z (List.mem_cons_of_mem _ hz)) hrest
      exact ⟨rfl, hst⟩

end Pieces

/-! ### Documents -/

@[induction_eliminator]
theorem induction {P : Json → Prop} (null : P .null) (bool : ∀ b, P (.bool b)) (int : ∀ n, P (.int n))
    (text : ∀ cs, P (.text cs)) (list : ∀ items, (∀ item ∈ items, P item) → P (.list items))
    (map : ∀ entries : List (List Char × Json), (∀ entry ∈ entries, P entry.2) → P (.map entries))
    (j : Json) : P j :=
  @Json.rec P (fun items => ∀ item ∈ items, P item) (fun entries => ∀ entry ∈ entries, P entry.2)
    (fun entry => P entry.2) null bool int text list map
    nofun (fun _ _ hfirst hrest => List.forall_mem_cons.mpr ⟨hfirst, hrest⟩)
    nofun (fun _ _ hfirst hrest => List.forall_mem_cons.mpr ⟨hfirst, hrest⟩) (fun _ _ hvalue => hvalue) j

inductive Kind
  | null
  | bool
  | int
  | text
  | list
  | map
  deriving DecidableEq

def kind : Json → Kind
  | .null => .null
  | .bool _ => .bool
  | .int _ => .int
  | .text _ => .text
  | .list _ => .list
  | .map _ => .map

def Kind.opened? (c : Char) : Option Kind :=
  if isNumeralMark c then some .int
  else if c = 'n' then some .null
  else if c = 't' ∨ c = 'f' then some .bool
  else if c = '"' then some .text
  else if c = '[' then some .list
  else if c = '{' then some .map
  else none

theorem exists_render_eq_cons (style : Style) (j : Json) :
    ∃ c rest, j.render style = c :: rest ∧ Kind.opened? c = some j.kind := by
  cases j with
  | null => exact ⟨_, _, rfl, rfl⟩
  | bool b => cases b <;> exact ⟨_, _, rfl, rfl⟩
  | int n =>
    obtain ⟨c, rest, hn⟩ := List.exists_cons_of_ne_nil (numeral_ne_nil n)
    have hc : isNumeralMark c = true := isNumeralMark_of_mem (hn ▸ List.mem_cons_self ..)
    exact ⟨c, rest, hn, if_pos hc⟩
  | text cs => exact ⟨_, _, rfl, rfl⟩
  | list items => exact ⟨_, _, rfl, rfl⟩
  | map entries => exact ⟨_, _, rfl, rfl⟩

theorem kind_eq_of_render {a b : Json} (h : a.render style ++ s = b.render style ++ t) :
    b.kind = a.kind := by
  obtain ⟨c, rest, ha, hkind⟩ := exists_render_eq_cons style a
  obtain ⟨d, others, hb, hkind'⟩ := exists_render_eq_cons style b
  rw [ha, hb] at h
  rw [(List.cons.inj h).1, hkind'] at hkind
  exact Option.some.inj hkind

theorem render_append_ne_close {c : Char} (hc : Kind.opened? c = none) (j : Json) (u v : List Char) :
    j.render style ++ u ≠ c :: v := by
  obtain ⟨d, rest, hj, hkind⟩ := exists_render_eq_cons style j
  intro h
  rw [hj] at h
  rw [(List.cons.inj h).1, hc] at hkind
  cases hkind

def renderEntry (style : Style) (entry : List Char × Json) : List Char :=
  quote entry.1 ++ style.colon ++ entry.2.render style

theorem renderItems_eq (style : Style) (items : List Json) :
    renderItems style items = items.map (render style) := by
  induction items with
  | nil => rfl
  | cons item items ih => rw [renderItems, ih, List.map_cons]

theorem renderEntries_eq (style : Style) (entries : List (List Char × Json)) :
    renderEntries style entries = entries.map (renderEntry style) := by
  induction entries with
  | nil => rfl
  | cons entry entries ih => rw [renderEntries, ih, List.map_cons, renderEntry]

theorem endsItself_entry {entry : List Char × Json} (h : EndsItself (render style) entry.2) :
    EndsItself (renderEntry style) entry := by
  intro other u v hu hv heq
  simp only [renderEntry, List.append_assoc] at heq
  obtain ⟨hkey, hrest⟩ := quote_append_inj heq
  obtain ⟨hvalue, huv⟩ := h _ u v hu hv (List.append_cancel_left hrest)
  exact ⟨Prod.ext hkey hvalue, huv⟩

theorem endsItself_render {comma : List Char} (hcomma : style.comma = ',' :: comma) (j : Json) :
    EndsItself (render style) j := by
  induction j with
  | null =>
    intro b u v hu hv h
    have hkind := kind_eq_of_render h
    cases b with
    | null => exact ⟨rfl, List.append_cancel_left h⟩
    | _ => cases hkind
  | bool a =>
    intro b u v hu hv h
    have hkind := kind_eq_of_render h
    cases b with
    | bool b => cases a <;> cases b <;> simp_all [render]
    | _ => cases hkind
  | int m =>
    intro b u v hu hv h
    have hkind := kind_eq_of_render h
    cases b with
    | int n =>
      obtain ⟨rfl, huv⟩ := numeral_append_inj hu hv h
      exact ⟨rfl, huv⟩
    | _ => cases hkind
  | text cs =>
    intro b u v hu hv h
    have hkind := kind_eq_of_render h
    cases b with
    | text ds =>
      obtain ⟨rfl, huv⟩ := quote_append_inj h
      exact ⟨rfl, huv⟩
    | _ => cases hkind
  | list items ih =>
    intro b u v hu hv h
    have hkind := kind_eq_of_render h
    cases b with
    | list others =>
      simp only [render, renderItems_eq, hcomma, List.cons_append, List.append_assoc,
        List.nil_append] at h
      obtain ⟨rfl, huv⟩ := separated_append_inj (by decide) (by decide)
        (render_append_ne_close (by decide)) ih (List.cons.inj h).2
      exact ⟨rfl, huv⟩
    | _ => cases hkind
  | map entries ih =>
    intro b u v hu hv h
    have hkind := kind_eq_of_render h
    cases b with
    | map others =>
      simp only [render, renderEntries_eq, hcomma, List.cons_append, List.append_assoc,
        List.nil_append] at h
      obtain ⟨rfl, huv⟩ := separated_append_inj (by decide) (by decide)
        (fun entry _ _ => by simp [renderEntry, quote]) (fun entry he => endsItself_entry (ih entry he))
        (List.cons.inj h).2
      exact ⟨rfl, huv⟩
    | _ => cases hkind

theorem render_injective {comma : List Char} (hcomma : style.comma = ',' :: comma) {a b : Json}
    (h : a.render style = b.render style) : a = b :=
  (endsItself_render hcomma a b [] [] nofun nofun (congrArg (· ++ []) h)).1

end Json

end BondingPool
