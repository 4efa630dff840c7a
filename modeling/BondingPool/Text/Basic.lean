/-!
# Text as code points

Loose text may hold surrogates, which are code points but no characters, so it is a list of
code points rather than a `String`. Text without surrogates and lists of characters are the
same thing.

The blanks are the code points with Unicode's White_Space property, together with the four
information separators. They are what trimming removes from the ends of a text.

A text, in characters or in code points, is cut into lines at every break; a carriage return
with a line feed after it is one break. What stands after the last break counts as a line, so
there is one line more than there are breaks.
-/

namespace BondingPool

abbrev CodePoint := Fin 0x110000

namespace CodePoint

def isSurrogate (c : CodePoint) : Bool := 0xD800 ≤ c.val && c.val ≤ 0xDFFF

def ofChar (c : Char) : CodePoint :=
  ⟨c.toNat, by rcases c.valid with h | h <;> simp only [Char.toNat] at h ⊢ <;> omega⟩

def toChar? (c : CodePoint) : Option Char :=
  if c.isSurrogate then none else some (Char.ofNat c.val)

theorem not_isSurrogate_ofChar (c : Char) : (ofChar c).isSurrogate = false := by
  have hval : (ofChar c).val = c.val.toNat := rfl
  rw [isSurrogate, hval, Bool.and_eq_false_iff, decide_eq_false_iff_not, decide_eq_false_iff_not]
  rcases c.valid with h | h
  · exact .inl (by omega)
  · exact .inr (by omega)

theorem toChar?_ofChar (c : Char) : (ofChar c).toChar? = some c := by
  rw [toChar?, not_isSurrogate_ofChar]
  exact congrArg some (Char.ofNat_toNat c)

theorem toChar?_eq_some_iff {c : CodePoint} {d : Char} : c.toChar? = some d ↔ c = ofChar d := by
  constructor
  · intro h
    rw [toChar?] at h
    split at h
    · nomatch h
    · next hplain =>
      have hvalid : c.val.isValidChar := by
        have hc := c.isLt
        rw [isSurrogate, Bool.and_eq_true, decide_eq_true_iff, decide_eq_true_iff] at hplain
        rw [Nat.isValidChar]
        omega
      have hd : (Char.ofNat c.val).toNat = c.val := by
        rw [Char.ofNat, dif_pos hvalid]
        rfl
      exact Fin.ext (Option.some.inj h ▸ hd.symm)
  · rintro rfl
    exact toChar?_ofChar d

end CodePoint

abbrev Text := List CodePoint

namespace Text

def ofChars (cs : List Char) : Text := cs.map .ofChar

def ofString (s : String) : Text := ofChars s.toList

def chars? (t : Text) : Option (List Char) := t.mapM CodePoint.toChar?

theorem chars?_ofChars (cs : List Char) : chars? (ofChars cs) = some cs := by
  induction cs with
  | nil => rfl
  | cons c cs ih =>
    simp only [chars?, ofChars] at ih ⊢
    simp [CodePoint.toChar?_ofChar, ih]

theorem chars?_eq_some_iff {t : Text} {cs : List Char} : t.chars? = some cs ↔ t = ofChars cs := by
  constructor
  · intro h
    induction t generalizing cs with
    | nil =>
      cases h
      rfl
    | cons c t ih =>
      rw [chars?, List.mapM_cons, Option.bind_eq_bind, Option.bind_eq_some_iff] at h
      obtain ⟨d, hd, h⟩ := h
      rw [Option.bind_eq_bind, Option.bind_eq_some_iff] at h
      obtain ⟨ds, hds, h⟩ := h
      cases h
      rw [CodePoint.toChar?_eq_some_iff.mp hd, ih hds]
      rfl
  · rintro rfl
    exact chars?_ofChars cs

theorem any_isSurrogate_ofChars (cs : List Char) : (ofChars cs).any (·.isSurrogate) = false := by
  induction cs with
  | nil => rfl
  | cons c cs ih =>
    rw [ofChars, List.map_cons, List.any_cons, CodePoint.not_isSurrogate_ofChar, Bool.false_or]
    exact ih

theorem exists_isSurrogate_of_chars? {t : Text} (h : t.chars? = none) :
    t.any (·.isSurrogate) = true := by
  induction t with
  | nil => nomatch h
  | cons c t ih =>
    rw [List.any_cons, Bool.or_eq_true]
    cases hc : c.isSurrogate with
    | true => exact .inl rfl
    | false =>
      rw [chars?, List.mapM_cons, CodePoint.toChar?, hc, Option.bind_eq_bind] at h
      cases ht : chars? t with
      | none => exact .inr (ih ht)
      | some ds =>
        rw [chars?] at ht
        rw [ht] at h
        nomatch h

def trim {α : Type} (blank : α → Bool) (t : List α) : List α :=
  ((t.dropWhile blank).reverse.dropWhile blank).reverse

/-- The pieces of a text between separators, one more than there are separators. -/
def split {α : Type} [DecidableEq α] (separator : α) : List α → List (List α)
  | [] => [[]]
  | c :: rest =>
    if c = separator then [] :: split separator rest
    else match split separator rest with
      | [] => [[c]]
      | piece :: others => (c :: piece) :: others

/-! ### Blanks -/

def blankRanges : List (Nat × Nat) :=
  [(0x09, 0x0D), (0x1C, 0x20), (0x85, 0x85), (0xA0, 0xA0), (0x1680, 0x1680), (0x2000, 0x200A),
   (0x2028, 0x2029), (0x202F, 0x202F), (0x205F, 0x205F), (0x3000, 0x3000)]

def within (ranges : List (Nat × Nat)) (n : Nat) : Bool :=
  ranges.any fun (lo, hi) => lo ≤ n && n ≤ hi

def isBlankCode (n : Nat) : Bool := within blankRanges n

def isAscii (c : Char) : Bool := c.toNat < 0x80

def isBlank (c : Char) : Bool := isBlankCode c.toNat

def hasInk (t : Text) : Bool := t.any fun c => !isBlankCode c.val

/-! ### Lines -/

variable {α : Type}

def isPair (code : α → Nat) (c : α) (rest : List α) : Bool :=
  code c == 0x0D && (rest.head?.map code) == some 0x0A

def lines (code : α → Nat) (isBreak : Nat → Bool) : List α → List (List α)
  | [] => [[]]
  | c :: rest =>
    -- the return of a pair is left to the feed after it
    if isPair code c rest then lines code isBreak rest
    else if isBreak (code c) then [] :: lines code isBreak rest
    else match lines code isBreak rest with
      | [] => [[c]]
      | line :: others => (c :: line) :: others

def withPlainBreaks : List Char → List Char
  | [] => []
  | '\r' :: '\n' :: rest => '\n' :: withPlainBreaks rest
  | c :: rest => (if c = '\r' then '\n' else c) :: withPlainBreaks rest

def isTextBreak (n : Nat) : Bool :=
  (0x0A ≤ n && n ≤ 0x0D) || (0x1C ≤ n && n ≤ 0x1E) || n == 0x85 || n == 0x2028 || n == 0x2029

def isLineEnd (n : Nat) : Bool := n == 0x0A || n == 0x0D

end Text

end BondingPool
