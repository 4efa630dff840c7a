import Mathlib.Data.List.Nodup
import Mathlib.Data.List.Perm.Basic
import BondingPool.Value
import BondingPool.Json
import BondingPool.Proofs.Answer
import BondingPool.Proofs.Rendering

/-!
# Canonical bytes are canonical

A value has canonical bytes exactly if nothing in it stands in the way, at any depth, so the scan and the making of
the document refuse the same values. Entries sorted by distinct keys do not depend on the order they came in, and a
document is read back from its text; so two values have the same bytes exactly if they differ only in the order of
entries and in tuples standing for lists.
-/

namespace BondingPool

namespace Value

variable {v w x : Value} {items : List Value} {entries : List (Value × Value)}

/-! ### What a value holds -/

def items? : Value → Option (List Value)
  | .list items => some items
  | .tuple items => some items
  | _ => none

def parts : Value → List Value
  | .list items => items
  | .tuple items => items
  | .dict entries => entries.map (·.1) ++ entries.map (·.2)
  | _ => []

theorem mem_parts_dict :
    x ∈ (dict entries).parts ↔ ∃ entry ∈ entries, entry.1 = x ∨ entry.2 = x := by
  simp only [parts, List.mem_append, List.mem_map, and_or_left, exists_or]

theorem key_mem_parts {entry : Value × Value} (h : entry ∈ entries) :
    entry.1 ∈ (dict entries).parts :=
  mem_parts_dict.mpr ⟨entry, h, .inl rfl⟩

theorem value_mem_parts {entry : Value × Value} (h : entry ∈ entries) :
    entry.2 ∈ (dict entries).parts :=
  mem_parts_dict.mpr ⟨entry, h, .inr rfl⟩

theorem parts_of_items? (h : v.items? = some items) : v.parts = items := by
  cases v with
  | list | tuple => exact Option.some.inj h
  | _ => nomatch h

theorem induction_parts {P : Value → Prop} (step : ∀ v, (∀ x ∈ v.parts, P x) → P v) (v : Value) :
    P v := by
  have leaf (v : Value) (h : v.parts = []) : P v := step v (h ▸ nofun)
  have dict (entries : List (Value × Value)) (h : ∀ entry ∈ entries, P entry.1 ∧ P entry.2) :
      P (.dict entries) := by
    refine step _ fun x hx => ?_
    obtain ⟨entry, hentry, rfl | rfl⟩ := mem_parts_dict.mp hx
    · exact (h entry hentry).1
    · exact (h entry hentry).2
  exact @Value.rec P (fun items => ∀ x ∈ items, P x)
    (fun entries => ∀ entry ∈ entries, P entry.1 ∧ P entry.2) (fun entry => P entry.1 ∧ P entry.2)
    (leaf _ rfl) (fun _ => leaf _ rfl) (fun _ => leaf _ rfl) (fun _ => leaf _ rfl)
    (fun _ => leaf _ rfl) (fun _ => leaf _ rfl) (fun _ => leaf _ rfl) (fun _ => leaf _ rfl)
    (fun _ => step (.list _)) (fun _ => step (.tuple _)) dict
    nofun (fun _ _ hfirst hrest => List.forall_mem_cons.mpr ⟨hfirst, hrest⟩)
    nofun (fun _ _ hfirst hrest => List.forall_mem_cons.mpr ⟨hfirst, hrest⟩)
    (fun _ _ hkey hvalue => ⟨hkey, hvalue⟩) v

/-- A value stands at some depth in another, as a key or otherwise. -/
inductive Within : Value → Value → Prop
  | self (v : Value) : v.Within v
  | part {v x y : Value} : y ∈ v.parts → x.Within y → x.Within v

/-- Every mapping in a value has each of its keys once. -/
def DistinctKeys (v : Value) : Prop :=
  ∀ entries, (dict entries).Within v → entries.Pairwise fun e f => e.1.same f.1 = false

theorem DistinctKeys.of_mem (h : v.DistinctKeys) (hx : x ∈ v.parts) : x.DistinctKeys :=
  fun entries hentries => h entries (.part hx hentries)

theorem distinctKeys_items? (h : v.items? = some items) (hitems : ∀ x ∈ items, x.DistinctKeys) :
    v.DistinctKeys := by
  intro entries hwithin
  cases hwithin with
  | self => nomatch h
  | part hx hwithin => exact hitems _ (parts_of_items? h ▸ hx) entries hwithin

theorem distinctKeys_dict (h : entries.Pairwise fun e f => e.1.same f.1 = false)
    (hparts : ∀ x ∈ (dict entries).parts, x.DistinctKeys) : (dict entries).DistinctKeys := by
  intro others hwithin
  cases hwithin with
  | self => exact h
  | part hx hwithin => exact hparts _ hx others hwithin

theorem distinctKeys_leaf (h : v.parts = []) : v.DistinctKeys := by
  intro entries hwithin
  cases hwithin with
  | self =>
    rw [List.map_eq_nil_iff.mp (List.append_eq_nil_iff.mp h).1]
    exact .nil
  | part hx _ =>
    rw [h] at hx
    nomatch hx

mutual

/-- Two values are the same up to the order of entries and to tuples standing for lists. -/
inductive Alike : Value → Value → Prop
  | refl (v : Value) : Alike v v
  | items {v w : Value} {xs ys : List Value} :
      v.items? = some xs → w.items? = some ys → List.Forall₂ Alike xs ys → Alike v w
  | dict {es fs gs : List (Value × Value)} :
      List.Forall₂ AlikeEntry es fs → fs.Perm gs → Alike (.dict es) (.dict gs)

inductive AlikeEntry : Value × Value → Value × Value → Prop
  | mk {key v w : Value} : Alike v w → AlikeEntry (key, v) (key, w)

end

end Value

namespace Json

open Value

variable {v w x : Value} {items : List Value} {entries : List (Value × Value)} {t : Text}
  {cs : List Char} {j : Json} {fault : CanonicalFault}

/-! ### What has a document -/

/-- What stands in the way of canonical bytes, and the fault it is refused with. -/
inductive Offends : Value → CanonicalFault → Prop
  | floatingPoint (number : Binary64) : Offends (.float number) .floatingPoint
  | surrogate {t : Text} (h : t.any (·.isSurrogate) = true) : Offends (.text t) .surrogate
  | keyNotText {entries : List (Value × Value)} {entry : Value × Value} (hmem : entry ∈ entries)
      (hkey : entry.1.text? = none) : Offends (.dict entries) .keyNotText
  | bytes (b : List UInt8) : Offends (.bytes b) (.unwritable "bytes")
  | date (d : Date) : Offends (.date d) (.unwritable "date")
  | moment (m : Moment) : Offends (.moment m) (.unwritable "datetime")

def Writes (entry : Value × Value) (written : List Char × Json) : Prop :=
  entry.1 = .text (.ofChars written.1) ∧ ofValue entry.2 = .ok written.2

theorem charsOf_eq_ok_iff : charsOf t = .ok cs ↔ t = .ofChars cs := by
  rw [charsOf, ← Text.chars?_eq_some_iff]
  split
  · next ds hds => rw [hds, Except.ok.injEq, Option.some.injEq]
  · next hnone =>
    rw [hnone]
    exact ⟨nofun, nofun⟩

theorem offends_of_charsOf (h : charsOf t = .error fault) : Offends (.text t) fault := by
  rw [charsOf] at h
  split at h
  · nomatch h
  · next hnone =>
    cases h
    exact .surrogate (Text.exists_isSurrogate_of_chars? hnone)

theorem offends_of_scanText (h : scanText t = .error fault) : Offends (.text t) fault := by
  rw [scanText] at h
  split at h
  · next hany =>
    cases h
    exact .surrogate hany
  · nomatch h

theorem ofItems_eq_ok_iff {js : List Json} :
    ofItems items = .ok js ↔ List.Forall₂ (fun x j => ofValue x = .ok j) items js := by
  induction items generalizing js with
  | nil =>
    rw [ofItems, Except.ok.injEq, List.forall₂_nil_left_iff, eq_comm]
  | cons x items ih =>
    rw [ofItems, bind_eq_ok_iff, List.forall₂_cons_left_iff]
    simp only [bind_eq_ok_iff, ih, pure, Except.pure, Except.ok.injEq]
    constructor
    · rintro ⟨j, hj, js, hjs, rfl⟩
      exact ⟨j, js, hj, hjs, rfl⟩
    · rintro ⟨j, js, hj, hjs, rfl⟩
      exact ⟨j, hj, js, hjs, rfl⟩

theorem ofEntries_eq_ok_iff {written : List (List Char × Json)} :
    ofEntries entries = .ok written ↔ List.Forall₂ Writes entries written := by
  induction entries generalizing written with
  | nil =>
    rw [ofEntries, Except.ok.injEq, List.forall₂_nil_left_iff, eq_comm]
  | cons entry entries ih =>
    obtain ⟨key, x⟩ := entry
    rw [List.forall₂_cons_left_iff]
    cases key with
    | text key =>
      rw [ofEntries]
      simp only [bind_eq_ok_iff, charsOf_eq_ok_iff, ih, pure, Except.pure, Except.ok.injEq]
      constructor
      · rintro ⟨cs, rfl, j, hj, written, hwritten, rfl⟩
        exact ⟨(cs, j), written, ⟨rfl, hj⟩, hwritten, rfl⟩
      · rintro ⟨⟨cs, j⟩, written, ⟨hkey, hj⟩, hwritten, rfl⟩
        exact ⟨cs, Value.text.inj hkey, j, hj, written, hwritten, rfl⟩
    | _ =>
      constructor
      · nofun
      · rintro ⟨_, _, ⟨hkey, -⟩, -⟩
        nomatch hkey

theorem ofValue_of_items? (h : v.items? = some items) : ofValue v = (ofItems items).map .list := by
  cases v with
  | list | tuple =>
    cases h
    rfl
  | _ => nomatch h

def Source : Json → Value → Prop
  | .null, v => v = .null
  | .bool truth, v => v = .bool truth
  | .int n, v => v = .int n
  | .text cs, v => v = .text (.ofChars cs)
  | .list js, v =>
    ∃ items, v.items? = some items ∧ List.Forall₂ (fun x j => ofValue x = .ok j) items js
  | .map written, v => ∃ entries unsorted,
    v = .dict entries ∧ List.Forall₂ Writes entries unsorted ∧ sortByKey unsorted = written

theorem ofValue_eq_ok_iff : ofValue v = .ok j ↔ j.Source v := by
  constructor
  · intro h
    cases v with
    | null | bool | int =>
      cases h
      rfl
    | text t =>
      obtain ⟨cs, hcs, rfl⟩ := map_eq_ok_iff.mp h
      exact congrArg Value.text (charsOf_eq_ok_iff.mp hcs)
    | list items | tuple items =>
      obtain ⟨js, hjs, rfl⟩ := map_eq_ok_iff.mp h
      exact ⟨items, rfl, ofItems_eq_ok_iff.mp hjs⟩
    | dict entries =>
      obtain ⟨unsorted, hunsorted, rfl⟩ := map_eq_ok_iff.mp h
      exact ⟨entries, unsorted, rfl, ofEntries_eq_ok_iff.mp hunsorted, rfl⟩
    | _ => nomatch h
  · intro h
    cases j with
    | text cs =>
      cases h
      exact map_eq_ok_iff.mpr ⟨cs, charsOf_eq_ok_iff.mpr rfl, rfl⟩
    | list js =>
      obtain ⟨items, hitems, hjs⟩ := h
      rw [ofValue_of_items? hitems]
      exact map_eq_ok_iff.mpr ⟨js, ofItems_eq_ok_iff.mpr hjs, rfl⟩
    | map written =>
      obtain ⟨entries, unsorted, rfl, hwrites, rfl⟩ := h
      exact map_eq_ok_iff.mpr ⟨unsorted, ofEntries_eq_ok_iff.mpr hwrites, rfl⟩
    | _ =>
      cases h
      rfl

/-! ### What has none -/

theorem exists_ofValue_of_mem (h : ofValue v = .ok j) (hx : x ∈ v.parts) : ∃ i, ofValue x = .ok i := by
  have hsource := ofValue_eq_ok_iff.mp h
  cases j with
  | list js =>
    obtain ⟨items, hitems, hjs⟩ := hsource
    rw [parts_of_items? hitems] at hx
    obtain ⟨i, -, hi⟩ := exists_mem_of_forall₂ hjs hx
    exact ⟨i, hi⟩
  | map written =>
    obtain ⟨entries, unsorted, rfl, hwrites, -⟩ := hsource
    obtain ⟨entry, hentry, hx⟩ := mem_parts_dict.mp hx
    obtain ⟨one, -, hkey, hvalue⟩ := exists_mem_of_forall₂ hwrites hentry
    rcases hx with rfl | rfl
    · exact ⟨.text one.1, ofValue_eq_ok_iff.mpr hkey⟩
    · exact ⟨one.2, hvalue⟩
  | _ =>
    cases hsource
    nomatch hx

theorem exists_ofValue_of_within (h : ofValue v = .ok j) (hx : x.Within v) :
    ∃ i, ofValue x = .ok i := by
  induction hx generalizing j with
  | self => exact ⟨j, h⟩
  | part hmem _ ih =>
    obtain ⟨i, hi⟩ := exists_ofValue_of_mem h hmem
    exact ih hi

theorem not_offends_of_ofValue (h : ofValue v = .ok j) : ¬ Offends v fault := by
  intro hoffends
  cases hoffends with
  | surrogate hany =>
    rw [ofValue, map_eq_ok_iff] at h
    obtain ⟨cs, hcs, -⟩ := h
    rw [charsOf_eq_ok_iff.mp hcs, Text.any_isSurrogate_ofChars] at hany
    nomatch hany
  | keyNotText hmem hkey =>
    rw [ofValue, map_eq_ok_iff] at h
    obtain ⟨written, hwritten, -⟩ := h
    obtain ⟨one, -, hone, -⟩ := exists_mem_of_forall₂ (ofEntries_eq_ok_iff.mp hwritten) hmem
    rw [hone] at hkey
    nomatch hkey
  | _ => nomatch h

theorem exists_of_scanItems (h : scanItems items = .error fault) :
    ∃ x ∈ items, scan x = .error fault := by
  induction items with
  | nil => nomatch h
  | cons item rest ih =>
    rw [scanItems, bind_eq_error_iff] at h
    rcases h with h | ⟨_, -, h⟩
    · exact ⟨item, List.mem_cons_self, h⟩
    · obtain ⟨x, hx, h⟩ := ih h
      exact ⟨x, List.mem_cons_of_mem _ hx, h⟩

theorem exists_of_ofItems (h : ofItems items = .error fault) :
    ∃ x ∈ items, ofValue x = .error fault := by
  induction items with
  | nil => nomatch h
  | cons item rest ih =>
    rw [ofItems, bind_eq_error_iff] at h
    rcases h with h | ⟨_, -, h⟩
    · exact ⟨item, List.mem_cons_self, h⟩
    · rw [bind_eq_error_iff] at h
      rcases h with h | ⟨_, -, h⟩
      · obtain ⟨x, hx, h⟩ := ih h
        exact ⟨x, List.mem_cons_of_mem _ hx, h⟩
      · nomatch h

def RefusesEntry (refuses : Value → CanonicalFault → Prop) (entry : Value × Value)
    (fault : CanonicalFault) : Prop :=
  entry.1.text? = none ∧ fault = .keyNotText ∨ refuses entry.1 fault ∨ refuses entry.2 fault

theorem exists_of_scanEntries (h : scanEntries entries = .error fault) :
    ∃ entry ∈ entries, RefusesEntry (fun x fault => scan x = .error fault) entry fault := by
  induction entries with
  | nil => nomatch h
  | cons entry rest ih =>
    obtain ⟨key, x⟩ := entry
    cases key with
    | text key =>
      rw [scanEntries, bind_eq_error_iff] at h
      rcases h with h | ⟨_, -, h⟩
      · exact ⟨_, List.mem_cons_self, .inr (.inl h)⟩
      · rw [bind_eq_error_iff] at h
        rcases h with h | ⟨_, -, h⟩
        · exact ⟨_, List.mem_cons_self, .inr (.inr h)⟩
        · obtain ⟨entry, hentry, h⟩ := ih h
          exact ⟨entry, List.mem_cons_of_mem _ hentry, h⟩
    | _ =>
      cases h
      exact ⟨_, List.mem_cons_self, .inl ⟨rfl, rfl⟩⟩

theorem exists_of_ofEntries (h : ofEntries entries = .error fault) :
    ∃ entry ∈ entries, RefusesEntry (fun x fault => ofValue x = .error fault) entry fault := by
  induction entries with
  | nil => nomatch h
  | cons entry rest ih =>
    obtain ⟨key, x⟩ := entry
    cases key with
    | text key =>
      rw [ofEntries, bind_eq_error_iff] at h
      rcases h with h | ⟨_, -, h⟩
      · exact ⟨_, List.mem_cons_self, .inr (.inl (map_eq_error_iff.mpr h))⟩
      · rw [bind_eq_error_iff] at h
        rcases h with h | ⟨_, -, h⟩
        · exact ⟨_, List.mem_cons_self, .inr (.inr h)⟩
        · rw [bind_eq_error_iff] at h
          rcases h with h | ⟨_, -, h⟩
          · obtain ⟨entry, hentry, h⟩ := ih h
            exact ⟨entry, List.mem_cons_of_mem _ hentry, h⟩
          · nomatch h
    | _ =>
      cases h
      exact ⟨_, List.mem_cons_self, .inl ⟨rfl, rfl⟩⟩

def Barred (v : Value) (fault : CanonicalFault) : Prop := ∃ x, x.Within v ∧ Offends x fault

theorem Offends.barred (h : Offends v fault) : Barred v fault := ⟨v, .self v, h⟩

theorem Barred.of_mem (h : Barred x fault) (hx : x ∈ v.parts) : Barred v fault := by
  obtain ⟨y, hy, hoffends⟩ := h
  exact ⟨y, .part hx hy, hoffends⟩

theorem barred_of_entry {refuses : Value → CanonicalFault → Prop} {entry : Value × Value}
    (hparts : ∀ x ∈ (Value.dict entries).parts, refuses x fault → Barred x fault)
    (hentry : entry ∈ entries) (h : RefusesEntry refuses entry fault) :
    Barred (.dict entries) fault := by
  rcases h with ⟨hkey, rfl⟩ | h | h
  · exact Offends.barred (.keyNotText hentry hkey)
  · exact (hparts _ (key_mem_parts hentry) h).of_mem (key_mem_parts hentry)
  · exact (hparts _ (value_mem_parts hentry) h).of_mem (value_mem_parts hentry)

theorem barred_of_scan (h : scan v = .error fault) : Barred v fault := by
  induction v using induction_parts with
  | step v ih =>
    cases v with
    | float number =>
      cases h
      exact Offends.barred (.floatingPoint number)
    | text t => exact (offends_of_scanText h).barred
    | list items | tuple items =>
      obtain ⟨x, hx, hscan⟩ := exists_of_scanItems h
      exact (ih x hx hscan).of_mem hx
    | dict entries =>
      obtain ⟨entry, hentry, hrefuses⟩ := exists_of_scanEntries h
      exact barred_of_entry ih hentry hrefuses
    | _ => nomatch h

theorem barred_of_ofValue (h : ofValue v = .error fault) : Barred v fault := by
  induction v using induction_parts with
  | step v ih =>
    cases v with
    | float number =>
      cases h
      exact Offends.barred (.floatingPoint number)
    | text t => exact (offends_of_charsOf (map_eq_error_iff.mp h)).barred
    | bytes b =>
      cases h
      exact Offends.barred (.bytes b)
    | date d =>
      cases h
      exact Offends.barred (.date d)
    | moment m =>
      cases h
      exact Offends.barred (.moment m)
    | list items | tuple items =>
      obtain ⟨x, hx, hvalue⟩ := exists_of_ofItems (map_eq_error_iff.mp h)
      exact (ih x hx hvalue).of_mem hx
    | dict entries =>
      obtain ⟨entry, hentry, hrefuses⟩ := exists_of_ofEntries (map_eq_error_iff.mp h)
      exact barred_of_entry ih hentry hrefuses
    | _ => nomatch h

theorem not_barred_of_ofValue (h : ofValue v = .ok j) : ¬ Barred v fault := by
  rintro ⟨x, hx, hoffends⟩
  obtain ⟨i, hi⟩ := exists_ofValue_of_within h hx
  exact not_offends_of_ofValue hi hoffends

theorem scan_of_ofValue (h : ofValue v = .ok j) : scan v = .ok () := by
  obtain ⟨_, hscan⟩ := exists_eq_ok fun fault hscan =>
    not_barred_of_ofValue h (barred_of_scan hscan)
  exact hscan

theorem canonicalBytes_eq_ok_iff {b : Bytes} :
    canonicalBytes v = .ok b ↔ ∃ j, ofValue v = .ok j ∧ Bytes.utf8 (j.render .compact) = b := by
  simp only [canonicalBytes, canonicalText, map_eq_ok_iff, bind_eq_ok_iff, pure, Except.pure,
    Except.ok.injEq]
  constructor
  · rintro ⟨_, ⟨-, -, j, hj, rfl⟩, hb⟩
    exact ⟨j, hj, hb⟩
  · rintro ⟨j, hj, hb⟩
    exact ⟨_, ⟨(), scan_of_ofValue hj, j, hj, rfl⟩, hb⟩

theorem barred_of_canonicalBytes (h : canonicalBytes v = .error fault) : Barred v fault := by
  rw [canonicalBytes, map_eq_error_iff, canonicalText, bind_eq_error_iff] at h
  rcases h with h | ⟨_, -, h⟩
  · exact barred_of_scan h
  · rw [bind_eq_error_iff] at h
    rcases h with h | ⟨_, -, h⟩
    · exact barred_of_ofValue h
    · nomatch h

theorem exists_canonicalBytes_iff :
    (∃ b, canonicalBytes v = .ok b) ↔ ∀ fault, ¬ Barred v fault := by
  constructor
  · rintro ⟨b, hb⟩ fault
    obtain ⟨j, hj, -⟩ := canonicalBytes_eq_ok_iff.mp hb
    exact not_barred_of_ofValue hj
  · intro h
    exact exists_eq_ok fun fault hfault => h fault (barred_of_canonicalBytes hfault)

/-! ### Sorted entries -/

section Sorted

variable {a b : List Char × Json} {written others : List (List Char × Json)}

theorem insertByKey_perm (a : List Char × Json) (written : List (List Char × Json)) :
    (insertByKey a written).Perm (a :: written) := by
  induction written with
  | nil => exact .refl _
  | cons c rest ih =>
    rw [insertByKey]
    split_ifs
    · exact (ih.cons c).trans (.swap a c rest)
    · exact .refl _

theorem sortByKey_perm (written : List (List Char × Json)) : (sortByKey written).Perm written := by
  induction written with
  | nil => exact .refl _
  | cons a rest ih => exact (insertByKey_perm a _).trans (ih.cons a)

theorem insertByKey_comm_of_lt (h : a.1 < b.1) (written : List (List Char × Json)) :
    insertByKey a (insertByKey b written) = insertByKey b (insertByKey a written) := by
  have hback : ¬ b.1 < a.1 := lt_asymm h
  induction written with
  | nil => simp only [insertByKey, h, hback, if_true, if_false]
  | cons c rest ih =>
    by_cases hca : c.1 < a.1
    · have hcb : c.1 < b.1 := lt_trans hca h
      simp only [insertByKey, hca, hcb, if_true, ih]
    · by_cases hcb : c.1 < b.1
      · simp only [insertByKey, hca, hcb, h, if_true, if_false]
      · simp only [insertByKey, hca, hcb, h, hback, if_true, if_false]

theorem insertByKey_comm (h : a.1 ≠ b.1) (written : List (List Char × Json)) :
    insertByKey a (insertByKey b written) = insertByKey b (insertByKey a written) := by
  rcases lt_or_gt_of_ne h with h | h
  · exact insertByKey_comm_of_lt h written
  · exact (insertByKey_comm_of_lt h written).symm

theorem sortByKey_eq_of_perm (h : written.Perm others) (hnodup : (written.map (·.1)).Nodup) :
    sortByKey written = sortByKey others := by
  refine h.foldr_eq' (fun a ha b hb sorted => ?_) []
  by_cases hab : a = b
  · rw [hab]
  · have hkeys : a.1 ≠ b.1 := fun hkeys => hab (List.inj_on_of_nodup_map hnodup ha hb hkeys)
    exact (insertByKey_comm hkeys sorted).symm

theorem nodup_keys_of_writes (h : List.Forall₂ Writes entries written)
    (hdistinct : entries.Pairwise fun e f => e.1.same f.1 = false) : (written.map (·.1)).Nodup := by
  have hkeys : entries.map (·.1) = (written.map (·.1)).map fun cs => .text (.ofChars cs) := by
    clear hdistinct
    induction h with
    | nil => rfl
    | cons hfirst _ ih => rw [List.map_cons, hfirst.1, ih, List.map_cons, List.map_cons]
  have hpairwise : (entries.map (·.1)).Pairwise fun key other => key.same other = false :=
    List.pairwise_map.mpr hdistinct
  rw [hkeys, List.pairwise_map] at hpairwise
  refine hpairwise.imp fun {cs ds} hsame heq => ?_
  rw [heq, same, beq_self_eq_true] at hsame
  nomatch hsame

end Sorted

/-! ### Alike values -/

theorem exists_perm_writes {unsorted written : List (List Char × Json)}
    (h : List.Forall₂ Writes entries unsorted) (hperm : unsorted.Perm written) :
    ∃ sources : List (Value × Value), sources.Perm entries ∧ List.Forall₂ Writes sources written := by
  obtain ⟨sources, hwrites, hsources⟩ := List.perm_comp_forall₂ hperm.symm h.flip
  exact ⟨sources, hsources, hwrites.flip⟩

theorem alike_of_ofValue (hv : ofValue v = .ok j) (hw : ofValue w = .ok j) : Alike v w := by
  induction j generalizing v w with
  | list js ih =>
    -- items with one document are alike by the hypothesis on that document
    obtain ⟨xs, hxs, hxjs⟩ := ofValue_eq_ok_iff.mp hv
    obtain ⟨ys, hys, hyjs⟩ := ofValue_eq_ok_iff.mp hw
    exact .items hxs hys (forall₂_of_common (fun j hj x y => ih j hj) hxjs hyjs)
  | map written ih =>
    obtain ⟨es, unsorted, rfl, hes, rfl⟩ := ofValue_eq_ok_iff.mp hv
    obtain ⟨gs, others, rfl, hgs, hsorted⟩ := ofValue_eq_ok_iff.mp hw
    have hothers : others.Perm (sortByKey unsorted) := hsorted ▸ (sortByKey_perm others).symm
    -- both sides are brought into the order in which the document has their entries
    obtain ⟨es', hes', hwrites⟩ := exists_perm_writes hes (sortByKey_perm unsorted).symm
    obtain ⟨gs', hgs', hwrites'⟩ := exists_perm_writes hgs hothers
    have halike : List.Forall₂ AlikeEntry es' gs' := by
      refine forall₂_of_common ?_ hwrites hwrites'
      rintro one hone ⟨key, x⟩ ⟨key', y⟩ ⟨rfl, hx⟩ ⟨rfl, hy⟩
      exact .mk (ih one hone hx hy)
    obtain ⟨fs, hfs, hperm⟩ := List.perm_comp_forall₂ hes'.symm halike
    exact .dict hfs (hperm.trans hgs')
  | _ =>
    rw [ofValue_eq_ok_iff.mp hv, ofValue_eq_ok_iff.mp hw]
    exact .refl _

theorem ofValue_of_alike (h : Alike v w) (hdistinct : v.DistinctKeys) (hv : ofValue v = .ok j) :
    ofValue w = .ok j := by
  induction v using induction_parts generalizing w j with
  | step v ih =>
    cases h with
    | refl => exact hv
    | @items _ _ xs ys hxs hys halike =>
      rw [ofValue_of_items? hxs, map_eq_ok_iff] at hv
      obtain ⟨js, hjs, rfl⟩ := hv
      rw [ofValue_of_items? hys, map_eq_ok_iff]
      refine ⟨js, ofItems_eq_ok_iff.mpr ?_, rfl⟩
      refine forall₂_of_common (fun x hx y j hxy hj => ?_) halike.flip (ofItems_eq_ok_iff.mp hjs).flip
      have hmem : x ∈ v.parts := parts_of_items? hxs ▸ hx
      exact ih x hmem hxy (hdistinct.of_mem hmem) hj
    | @dict es fs gs halike hperm =>
      rw [ofValue, map_eq_ok_iff] at hv
      obtain ⟨unsorted, hunsorted, rfl⟩ := hv
      have hwrites := ofEntries_eq_ok_iff.mp hunsorted
      have hfs : List.Forall₂ Writes fs unsorted := by
        refine forall₂_of_common ?_ halike.flip hwrites.flip
        rintro ⟨key, x⟩ hmem ⟨_, y⟩ one ⟨hxy⟩ ⟨hkey, hx⟩
        have hpart := value_mem_parts hmem
        exact ⟨hkey, ih x hpart hxy (hdistinct.of_mem hpart) hx⟩
      -- the other entries are written alike but in another order, which sorting by distinct keys undoes
      obtain ⟨others, hothers, hsame⟩ := List.perm_comp_forall₂ hperm.symm hfs
      rw [ofValue, map_eq_ok_iff]
      refine ⟨others, ofEntries_eq_ok_iff.mpr hothers, ?_⟩
      have hnodup := nodup_keys_of_writes hwrites (hdistinct es (.self _))
      rw [sortByKey_eq_of_perm hsame.symm hnodup]

/-- A value has canonical bytes exactly if nothing in it stands in the way, and is refused for something in it that
does; two values have the same bytes exactly if they are alike. -/
theorem canonicalBytes_separates (v : Value) :
    ((∃ b, canonicalBytes v = .ok b) ↔ ∀ x fault, x.Within v → ¬ Offends x fault) ∧
      (∀ fault, canonicalBytes v = .error fault → ∃ x, x.Within v ∧ Offends x fault) ∧
      (v.DistinctKeys → ∀ b, canonicalBytes v = .ok b →
        ∀ w, canonicalBytes w = .ok b ↔ v.Alike w) := by
  refine ⟨?_, fun fault => barred_of_canonicalBytes, fun hdistinct b hv w => ?_⟩
  · rw [exists_canonicalBytes_iff]
    constructor
    · intro h x fault hx hoffends
      exact h fault ⟨x, hx, hoffends⟩
    · rintro h fault ⟨x, hx, hoffends⟩
      exact h x fault hx hoffends
  · obtain ⟨j, hj, rfl⟩ := canonicalBytes_eq_ok_iff.mp hv
    constructor
    · intro hw
      obtain ⟨i, hi, hbytes⟩ := canonicalBytes_eq_ok_iff.mp hw
      have hij : i = j := render_injective rfl (Bytes.utf8_injective hbytes)
      exact alike_of_ofValue hj (hij ▸ hi)
    · intro halike
      exact canonicalBytes_eq_ok_iff.mpr ⟨j, ofValue_of_alike halike hdistinct hj, rfl⟩

def sampleText (s : String) : Value := .text (.ofString s)

def sample (one : Value) : Value :=
  .dict [(sampleText "b", .list [.int 1, .bool true]), (sampleText "a", one)]

def sampleReordered (one : Value) : Value :=
  .dict [(sampleText "a", one), (sampleText "b", .tuple [.int 1, .bool true])]

theorem sample_distinctKeys : (sample (sampleText "1")).DistinctKeys := by
  refine distinctKeys_dict (by decide) fun x hx => ?_
  have hx : x ∈ [sampleText "b", sampleText "a", .list [.int 1, .bool true], sampleText "1"] := hx
  simp only [List.mem_cons, List.not_mem_nil, or_false] at hx
  rcases hx with rfl | rfl | rfl | rfl
  · exact distinctKeys_leaf rfl
  · exact distinctKeys_leaf rfl
  · refine distinctKeys_items? rfl fun x hx => distinctKeys_leaf ?_
    simp only [List.mem_cons, List.not_mem_nil, or_false] at hx
    rcases hx with rfl | rfl <;> rfl
  · exact distinctKeys_leaf rfl

theorem sample_alike : (sample (sampleText "1")).Alike (sampleReordered (sampleText "1")) := by
  have hlists : Alike (.list [.int 1, .bool true]) (.tuple [.int 1, .bool true]) :=
    .items rfl rfl (.cons (.refl _) (.cons (.refl _) .nil))
  exact .dict (.cons (.mk hlists) (.cons (.mk (.refl _)) .nil)) (.swap ..)

theorem canonicalBytes_separates_sample :
    (sample (sampleText "1")).DistinctKeys ∧
      ∃ b, canonicalBytes (sample (sampleText "1")) = .ok b ∧
        canonicalBytes (sampleReordered (sampleText "1")) = .ok b ∧
        ¬ (sample (sampleText "1")).Alike (sampleReordered (.int 1)) := by
  obtain ⟨-, -, hsame⟩ := canonicalBytes_separates (sample (sampleText "1"))
  have hbytes : canonicalBytes (sample (sampleText "1")) =
      .ok (Bytes.utf8 "\x7b\"a\":\"1\",\"b\":[1,true]\x7d".toList) := rfl
  have hnumber : canonicalBytes (sampleReordered (.int 1)) =
      .ok (Bytes.utf8 "\x7b\"a\":1,\"b\":[1,true]\x7d".toList) := rfl
  have halike := hsame sample_distinctKeys _ hbytes
  refine ⟨sample_distinctKeys, _, hbytes, (halike _).mpr sample_alike, fun h => ?_⟩
  have hdiffer := hnumber.symm.trans ((halike _).mpr h)
  exact absurd (Except.ok.inj hdiffer) (by decide)

end Json

end BondingPool
