import BondingPool.Encoding
import BondingPool.Proofs.Rendering

/-!
# Where a domain tag ends

What stands before the closing NUL of a tag holds no other NUL, so the first one in the data is where the
tag ends. A label may itself look like a label with a version; but a version has digits only, so the last
mark of a version in the tag is its own, and the tag can be read in one way only.
-/

namespace BondingPool

section Marks

variable {α : Type} {mark : α} {xs ys s t : List α}

theorem append_mark_inj (hxs : mark ∉ xs) (hys : mark ∉ ys)
    (h : xs ++ mark :: s = ys ++ mark :: t) : xs = ys ∧ s = t := by
  rcases List.append_eq_append_iff.mp h with ⟨more, hmore, hrest⟩ | ⟨more, hmore, hrest⟩
  · cases more with
    | nil => exact ⟨by rw [hmore, List.append_nil], (List.cons.inj hrest).2⟩
    | cons c more =>
      have hmark : mark ∈ ys := by simp [hmore, (List.cons.inj hrest).1]
      exact absurd hmark hys
  · cases more with
    | nil => exact ⟨by rw [hmore, List.append_nil], (List.cons.inj hrest).2.symm⟩
    | cons c more =>
      have hmark : mark ∈ xs := by simp [hmore, (List.cons.inj hrest).1]
      exact absurd hmark hxs

theorem append_last_mark_inj (hs : mark ∉ s) (ht : mark ∉ t)
    (h : xs ++ mark :: s = ys ++ mark :: t) : xs = ys ∧ s = t := by
  have hback := congrArg List.reverse h
  simp only [List.reverse_append, List.reverse_cons, List.append_assoc, List.cons_append,
    List.nil_append] at hback
  obtain ⟨hst, hxy⟩ := append_mark_inj (mt List.mem_reverse.mp hs) (mt List.mem_reverse.mp ht) hback
  exact ⟨List.reverse_inj.mp hxy, List.reverse_inj.mp hst⟩

end Marks

theorem Bytes.utf8_append (cs ds : List Char) : utf8 (cs ++ ds) = utf8 cs ++ utf8 ds :=
  List.flatMap_append

namespace DomainTag

variable {tag tag' : DomainTag} {label label' version version' : Value} {x y : Bytes} {c : Char}

/-! ### The closing byte -/

def isPlain (c : Char) : Bool := Text.isAscii c && c != '\x00'

theorem isPlain_of_isDigit (h : c.isDigit = true) : isPlain c = true := by
  rw [Char.isDigit, Bool.and_eq_true, decide_eq_true_iff, decide_eq_true_iff] at h
  have hlow : 0x30 ≤ c.toNat := h.1
  have hhigh : c.toNat ≤ 0x39 := h.2
  rw [isPlain, Text.isAscii, Bool.and_eq_true, decide_eq_true_iff, bne_iff_ne]
  refine ⟨by omega, ?_⟩
  rintro rfl
  exact absurd hlow (by decide)

theorem zero_notMem_utf8EncodeChar (h : isPlain c = true) : 0 ∉ String.utf8EncodeChar c := by
  rw [isPlain, Text.isAscii, Bool.and_eq_true, decide_eq_true_iff, bne_iff_ne] at h
  obtain ⟨hascii, hnul⟩ := h
  have hencode : String.utf8EncodeChar c = [UInt8.ofNat c.toNat] :=
    if_pos (Nat.le_of_lt_succ hascii)
  rw [hencode, List.mem_singleton]
  intro hzero
  have hbyte : 0 = c.toNat % 2 ^ 8 := congrArg UInt8.toNat hzero
  have hcode : c.toNat = 0 := by omega
  exact hnul (by rw [← Char.ofNat_toNat c, hcode])

def opening : List Char := "bondcurve:".toList

def versionMark : List Char := ":v".toList

def chars (tag : DomainTag) : List Char :=
  opening ++ tag.label ++ versionMark ++ (toString tag.version).toList

theorem bytes_eq (tag : DomainTag) : tag.bytes = Bytes.utf8 tag.chars ++ [0] := by
  rw [chars, Bytes.utf8_append, Bytes.utf8_append, Bytes.utf8_append]
  rfl

theorem isPlain_of_mem_label (h : c ∈ tag.label) : isPlain c = true := by
  have hnul : c ≠ '\x00' := by
    rintro rfl
    exact absurd ((List.contains_iff_mem.mpr h).symm.trans tag.no_nul) (by decide)
  rw [isPlain, List.all_eq_true.mp tag.ascii c h, Bool.true_and, bne_iff_ne]
  exact hnul

theorem isPlain_of_mem_chars (h : c ∈ tag.chars) : isPlain c = true := by
  have hopening : opening.all isPlain = true := rfl
  have hmark : versionMark.all isPlain = true := rfl
  rw [chars, List.mem_append, List.mem_append, List.mem_append] at h
  rcases h with ((h | h) | h) | h
  · exact List.all_eq_true.mp hopening c h
  · exact isPlain_of_mem_label h
  · exact List.all_eq_true.mp hmark c h
  · exact isPlain_of_isDigit (Json.isDigit_of_mem_repr h)

theorem zero_notMem (tag : DomainTag) : 0 ∉ Bytes.utf8 tag.chars := by
  intro hzero
  obtain ⟨c, hc, hbyte⟩ := List.mem_flatMap.mp hzero
  exact zero_notMem_utf8EncodeChar (isPlain_of_mem_chars hc) hbyte

/-! ### Label and version -/

theorem ext_parts (hlabel : tag.label = tag'.label) (hversion : tag.version = tag'.version) :
    tag = tag' := by
  cases tag
  cases tag'
  cases hlabel
  cases hversion
  rfl

theorem v_notMem_numeral (n : ℕ) : 'v' ∉ (toString n).toList := by
  intro hv
  exact absurd (Json.isDigit_of_mem_repr hv) (by decide)

theorem chars_injective (h : tag.chars = tag'.chars) : tag = tag' := by
  have hcut : ∀ tag : DomainTag, tag.chars =
      opening ++ tag.label ++ [':'] ++ 'v' :: (toString tag.version).toList := by
    intro tag
    rw [chars, List.append_cons _ 'v', List.append_assoc _ [':'] ['v']]
    rfl
  rw [hcut, hcut] at h
  obtain ⟨hfront, hversion⟩ := append_last_mark_inj (v_notMem_numeral _) (v_notMem_numeral _) h
  have hlabel := List.append_cancel_left (List.append_cancel_right hfront)
  exact ext_parts hlabel (Nat.repr_inj.mp (String.toList_inj.mp hversion))

theorem bytes_append_inj (h : tag.bytes ++ x = tag'.bytes ++ y) : tag = tag' ∧ x = y := by
  rw [bytes_eq, bytes_eq, List.append_assoc, List.append_assoc] at h
  obtain ⟨hbytes, hrest⟩ := append_mark_inj tag.zero_notMem tag'.zero_notMem h
  exact ⟨chars_injective (Bytes.utf8_injective hbytes), hrest⟩

/-! ### Loose labels and versions -/

theorem ofChars_eq_ok_iff {cs : List Char} :
    ofChars cs version = .ok tag ↔ cs = tag.label ∧ version = .int tag.version := by
  constructor
  · intro h
    unfold ofChars at h
    split at h
    · nomatch h
    · nomatch h
    · nomatch h
    · split at h
      · next n hn =>
        split at h
        · next hpos =>
          cases h
          exact ⟨rfl, by rw [Value.int?_eq_some_iff.mp hn, Int.toNat_of_nonneg (by omega)]⟩
        · nomatch h
      · nomatch h
  · rintro ⟨rfl, rfl⟩
    unfold ofChars
    split
    · next h => exact absurd (h.symm.trans tag.nonempty) (by decide)
    · next h => exact absurd (h.symm.trans tag.no_nul) (by decide)
    · next h => exact absurd (h.symm.trans tag.ascii) (by decide)
    · exact dif_pos tag.version_pos

theorem ofValues_eq_ok_iff :
    ofValues label version = .ok tag ↔
      label = .text (Text.ofChars tag.label) ∧ version = .int tag.version := by
  constructor
  · intro h
    unfold ofValues at h
    split at h
    · nomatch h
    · next t ht =>
      split at h
      · next cs hcs =>
        obtain ⟨rfl, hversion⟩ := ofChars_eq_ok_iff.mp h
        rw [Text.chars?_eq_some_iff] at hcs
        exact ⟨by rw [Value.text?_eq_some_iff.mp ht, hcs], hversion⟩
      · split at h <;> nomatch h
  · rintro ⟨rfl, hversion⟩
    simp only [ofValues, Value.text?, Text.chars?_ofChars]
    exact ofChars_eq_ok_iff.mpr ⟨rfl, hversion⟩

/-- Tagged data are the same exactly if the labels, the versions and the data are, whatever marks of
versions the labels hold. -/
theorem bytes_append_eq_iff (h : ofValues label version = .ok tag)
    (h' : ofValues label' version' = .ok tag') :
    tag.bytes ++ x = tag'.bytes ++ y ↔ label = label' ∧ version = version' ∧ x = y := by
  obtain ⟨hlabel, hversion⟩ := ofValues_eq_ok_iff.mp h
  obtain ⟨hlabel', hversion'⟩ := ofValues_eq_ok_iff.mp h'
  constructor
  · intro heq
    obtain ⟨rfl, hrest⟩ := bytes_append_inj heq
    exact ⟨hlabel.trans hlabel'.symm, hversion.trans hversion'.symm, hrest⟩
  · rintro ⟨rfl, rfl, rfl⟩
    have htag : tag = tag' := Except.ok.inj (h.symm.trans h')
    rw [htag]

theorem bytes_append_eq_iff_sample :
    ∃ tag tag' : DomainTag,
      ofValues (.text (.ofString "a:v1")) (.int 2) = .ok tag ∧
      ofValues (.text (.ofString "a")) (.int 1) = .ok tag' ∧
      tag'.bytes.dropLast <+: tag.bytes ∧ ∀ x y, tag.bytes ++ x ≠ tag'.bytes ++ y := by
  have hlong : ofValues (.text (.ofString "a:v1")) (.int 2) =
      .ok ⟨['a', ':', 'v', '1'], 2, rfl, rfl, rfl, by decide⟩ := rfl
  have hshort : ofValues (.text (.ofString "a")) (.int 1) =
      .ok ⟨['a'], 1, rfl, rfl, rfl, by decide⟩ := rfl
  refine ⟨_, _, hlong, hshort, by decide, fun x y heq => ?_⟩
  obtain ⟨-, hversion, -⟩ := (bytes_append_eq_iff hlong hshort).mp heq
  exact absurd (Value.int.inj hversion) (by decide)

end DomainTag

end BondingPool
