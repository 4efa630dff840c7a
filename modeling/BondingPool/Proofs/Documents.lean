import BondingPool.Proofs.Loading

/-!
# Which documents are configurations

Said without the loader: the numbers that are the terms of a line, the bodies that configure a curve and
the documents that are made of such bodies under names. A document is read exactly if it is one of
these, and then as its names in their order, each with the line and the supply of its own body.
-/

namespace BondingPool

theorem Terms.ext_get {α : Type} {s t : Terms α} (h : ∀ term, s.get term = t.get term) : s = t := by
  cases s
  cases t
  have hs := h .slopeNumerator
  have hs' := h .slopeDenominator
  have hb := h .baseNumerator
  have hb' := h .baseDenominator
  simp only [Terms.get] at hs hs' hb hb'
  rw [hs, hs', hb, hb']

namespace PriceLine

variable {n : Terms ℤ} {t : Terms Value}

def integers (line : PriceLine) : Terms ℤ := line.terms.map Int.ofNat

@[simp]
theorem get_integers (line : PriceLine) (term : Term) :
    line.integers.get term = line.terms.get term :=
  Terms.get_map _ _ term

/-- Four words with both denominators other than zero and one of the numerators. -/
structure AreTerms (n : Terms ℤ) : Prop where
  word : ∀ term, 0 ≤ n.get term ∧ n.get term ≤ maxWord
  slopeDenominator : n.slopeDenominator ≠ 0
  baseDenominator : n.baseDenominator ≠ 0
  price : ¬ (n.slopeNumerator = 0 ∧ n.baseNumerator = 0)

theorem areTerms_integers (line : PriceLine) : AreTerms line.integers where
  word term := by
    rw [get_integers, terms, Terms.get_map]
    exact ⟨Int.natCast_nonneg _, Int.ofNat_le.mpr (line.words.get term).val_le⟩
  slopeDenominator h := Nat.ne_of_gt line.slope.den_pos (Int.ofNat.inj h)
  baseDenominator h := Nat.ne_of_gt line.base.den_pos (Int.ofNat.inj h)
  price h := by
    rcases line.positive with hpos | hpos
    · exact hpos (Int.ofNat.inj h.1)
    · exact hpos (Int.ofNat.inj h.2)

theorem AreTerms.exists_line (h : AreTerms n) : ∃ line : PriceLine, line.integers = n := by
  let word (term : Term) : Word := ⟨(n.get term).toNat, by have := h.word term; omega⟩
  have hval : ∀ term, ((word term).val : ℤ) = n.get term :=
    fun term => Int.toNat_of_nonneg (h.word term).1
  have hslope : 0 < (word .slopeDenominator).val := by
    have hne := h.slopeDenominator
    have hword := hval .slopeDenominator
    simp only [Terms.get] at hword
    omega
  have hbase : 0 < (word .baseDenominator).val := by
    have hne := h.baseDenominator
    have hword := hval .baseDenominator
    simp only [Terms.get] at hword
    omega
  have hprice : (word .slopeNumerator).val ≠ 0 ∨ (word .baseNumerator).val ≠ 0 := by
    have hne := h.price
    have hword := hval .slopeNumerator
    have hword' := hval .baseNumerator
    simp only [Terms.get] at hword hword'
    omega
  refine ⟨⟨⟨word .slopeNumerator, word .slopeDenominator, hslope⟩,
    ⟨word .baseNumerator, word .baseDenominator, hbase⟩, hprice⟩, Terms.ext_get fun term => ?_⟩
  rw [get_integers]
  cases term
  exacts [hval _, hval _, hval _, hval _]

end PriceLine

namespace CurveConfig

variable {body : List (Value × Value)} {curve : CurveConfig} {n : Terms ℤ} {amount : ℤ}

theorem isKnownKey_iff {key : Value} :
    isKnownKey key = true ↔ key ∈ keys.map fun known => .text (.ofString known) := by
  rw [List.mem_map]
  cases key with
  | text t =>
    simp only [isKnownKey, Value.text?, List.any_eq_true, beq_iff_eq, Value.text.injEq]
  | _ => simp [isKnownKey, Value.text?]

/-- The keys of the body are the five known ones, with the terms of a line and a positive supply. -/
structure Configures (body : List (Value × Value)) (n : Terms ℤ) (amount : ℤ) : Prop where
  keys : ∀ key, key ∈ body.map (·.1) ↔ key ∈ keys.map fun known => .text (.ofString known)
  terms : ∀ term, Value.field? body term.key = some (.int (n.get term))
  supply : Value.field? body supplyKey = some (.int amount)
  areTerms : PriceLine.AreTerms n
  supply_pos : 0 < amount

theorem key_mem_of_field? {key : String} {v : Value} (h : Value.field? body key = some v) :
    Value.text (.ofString key) ∈ body.map (·.1) := by
  obtain ⟨entry, hentry, -⟩ := Option.map_eq_some_iff.mp h
  have hfound := List.find?_some hentry
  have hkey : entry.1.text? = some (Text.ofString key) := eq_of_beq hfound
  rw [← Value.text?_eq_some_iff.mp hkey]
  exact List.mem_map_of_mem (List.mem_of_find?_eq_some hentry)

theorem unknownKeys_eq_nil_iff :
    unknownKeys body = [] ↔
      ∀ key ∈ body.map (·.1), key ∈ keys.map fun known => .text (.ofString known) := by
  rw [unknownKeys, List.filter_eq_nil_iff]
  simp only [Bool.not_eq_true', Bool.not_eq_false, isKnownKey_iff]

theorem Configures.exists_spelledBy (h : Configures body n amount) (name : Text) :
    ∃ curve : CurveConfig, curve.name = name ∧ curve.line.integers = n ∧ curve.supply = amount ∧
      curve.SpelledBy body := by
  obtain ⟨line, rfl⟩ := h.areTerms.exists_line
  have hpos := h.supply_pos
  have hsupply : (amount.toNat : ℤ) = amount := Int.toNat_of_nonneg (by omega)
  refine ⟨⟨name, line, amount.toNat, by omega⟩, rfl, rfl, hsupply, ?_, fun term => ?_, ?_⟩
  · exact unknownKeys_eq_nil_iff.mpr fun key => (h.keys key).mp
  · rw [h.terms term, PriceLine.get_integers]
  · rw [h.supply, hsupply]

theorem SpelledBy.configures (h : curve.SpelledBy body) :
    Configures body curve.line.integers curve.supply where
  keys key := by
    refine ⟨unknownKeys_eq_nil_iff.mp h.known key, ?_⟩
    simp only [CurveConfig.keys, List.map_cons, List.map_nil, List.mem_cons, List.not_mem_nil,
      or_false]
    rintro (rfl | rfl | rfl | rfl | rfl)
    exacts [key_mem_of_field? h.supply, key_mem_of_field? (h.terms _),
      key_mem_of_field? (h.terms _), key_mem_of_field? (h.terms _), key_mem_of_field? (h.terms _)]
  terms term := by rw [h.terms term, PriceLine.get_integers]
  supply := h.supply
  areTerms := curve.line.areTerms_integers
  supply_pos := Int.ofNat_lt.mpr curve.supply_pos

end CurveConfig

namespace Config

variable {document : Value} {entries : List (Value × Value)} {config : Config}

/-- A mapping whose curves are named mappings, at least one, each of which configures a curve. -/
def WellFormed (document : Value) : Prop :=
  ∃ entries, Lists document entries ∧ entries ≠ [] ∧ ∀ entry ∈ entries, ∃ name body n amount,
    entry = (.text name, .dict body) ∧ (∃ c ∈ name, Text.isBlankCode c.val = false) ∧
      CurveConfig.Configures body n amount

theorem hasInk_iff {name : Text} :
    name.hasInk = true ↔ ∃ c ∈ name, Text.isBlankCode c.val = false := by
  simp only [Text.hasInk, List.any_eq_true, Bool.not_eq_true']

theorem exists_ofEntry_iff {entry : Value × Value} :
    (∃ curve, CurveConfig.ofEntry entry.1 entry.2 = .ok curve) ↔ ∃ name body n amount,
      entry = (.text name, .dict body) ∧ (∃ c ∈ name, Text.isBlankCode c.val = false) ∧
        CurveConfig.Configures body n amount := by
  obtain ⟨key, value⟩ := entry
  simp only [CurveConfig.ofEntry_eq_ok_iff, hasInk_iff]
  constructor
  · rintro ⟨curve, rfl, hink, body, rfl, hspelled⟩
    exact ⟨_, body, _, _, rfl, hink, hspelled.configures⟩
  · rintro ⟨name, body, n, amount, hentry, hink, hbody⟩
    cases hentry
    obtain ⟨curve, rfl, -, -, hspelled⟩ := hbody.exists_spelledBy name
    exact ⟨curve, rfl, hink, body, rfl, hspelled⟩

theorem exists_ofEntries_iff :
    (∃ config, ofEntries entries = .ok config) ↔
      ∀ entry ∈ entries, ∃ curve, CurveConfig.ofEntry entry.1 entry.2 = .ok curve := by
  simp only [ofEntries_eq_ok_iff]
  constructor
  · rintro ⟨config, h⟩ entry hentry
    obtain ⟨curve, -, hcurve⟩ := exists_mem_of_forall₂ h hentry
    exact ⟨curve, hcurve⟩
  · intro h
    induction entries with
    | nil => exact ⟨[], .nil⟩
    | cons entry rest ih =>
      obtain ⟨first, hfirst⟩ := h entry List.mem_cons_self
      obtain ⟨others, hothers⟩ := ih fun entry hentry => h entry (List.mem_cons_of_mem _ hentry)
      exact ⟨first :: others, .cons hfirst hothers⟩

theorem exists_ofValue_iff : (∃ config, ofValue document = .ok config) ↔ WellFormed document := by
  simp only [ofValue_eq_ok_iff, WellFormed, ← exists_ofEntry_iff, ← exists_ofEntries_iff]
  constructor
  · rintro ⟨config, entries, hlists, hne, h⟩
    exact ⟨entries, hlists, hne, config, h⟩
  · rintro ⟨entries, hlists, hne, config, h⟩
    exact ⟨config, entries, hlists, hne, h⟩

theorem find?_of_nodup (h : (config.map (·.name)).Nodup) {curve : CurveConfig}
    (hmem : curve ∈ config) : config.find? curve.name = some curve := by
  induction config with
  | nil => nomatch hmem
  | cons first others ih =>
    rw [List.map_cons, List.nodup_cons] at h
    rw [find?]
    rcases List.mem_cons.mp hmem with rfl | hmem
    · exact List.find?_cons_of_pos (beq_self_eq_true _)
    · have hname : first.name ≠ curve.name := by
        intro heq
        exact h.1 (heq ▸ List.mem_map_of_mem hmem)
      rw [List.find?_cons_of_neg (by simpa using hname)]
      exact ih h.2 hmem

/-- The entry gives the curve its name, and its body the curve's line and supply and nothing else. -/
def Describes (entry : Value × Value) (curve : CurveConfig) : Prop :=
  ∃ body, entry = (.text curve.name, .dict body) ∧
    CurveConfig.Configures body curve.line.integers curve.supply

theorem describes_of_ofEntry {entry : Value × Value} {curve : CurveConfig}
    (h : CurveConfig.ofEntry entry.1 entry.2 = .ok curve) : Describes entry curve := by
  obtain ⟨hname, -, body, hvalue, hspelled⟩ := CurveConfig.ofEntry_eq_ok_iff.mp h
  exact ⟨body, Prod.ext hname hvalue, hspelled.configures⟩

theorem names_of_describes (h : List.Forall₂ Describes entries config) :
    entries.map (·.1) = (config.map (·.name)).map .text := by
  induction h with
  | nil => rfl
  | cons hfirst _ ih =>
    obtain ⟨body, rfl, -⟩ := hfirst
    rw [List.map_cons, List.map_cons, List.map_cons, ih]

/-- A document is read exactly if it is well formed, and any other is turned down. What is read are the
curves of its mapping, in their order and each from its own entry, and each is found under its name. -/
theorem ofValue_accepts (document : Value) :
    ((∃ config, ofValue document = .ok config) ↔ WellFormed document) ∧
      (¬ WellFormed document → ∃ fault, ofValue document = .error fault) ∧
      ∀ config, ofValue document = .ok config → ∃ entries, Lists document entries ∧
        List.Forall₂ Describes entries config ∧
        ((entries.map (·.1)).Nodup → ∀ curve ∈ config, config.find? curve.name = some curve) := by
  refine ⟨exists_ofValue_iff, fun hform => ?_, fun config hconfig => ?_⟩
  · cases h : ofValue document with
    | ok config => exact absurd (exists_ofValue_iff.mp ⟨config, h⟩) hform
    | error fault => exact ⟨fault, rfl⟩
  · obtain ⟨entries, hlists, -, hentries⟩ := ofValue_eq_ok_iff.mp hconfig
    have hdescribes : List.Forall₂ Describes entries config :=
      (ofEntries_eq_ok_iff.mp hentries).imp fun _ _ => describes_of_ofEntry
    refine ⟨entries, hlists, hdescribes, fun hnodup curve hmem => find?_of_nodup ?_ hmem⟩
    rw [names_of_describes hdescribes] at hnodup
    exact hnodup.of_map

theorem ofValue_accepts_sample :
    WellFormed (sampleDocument 50000000000) ∧ ¬ WellFormed (sampleDocument 0) ∧
      (∃ fault, ofValue (sampleDocument 0) = .error fault) ∧
      ∃ config entries, ofValue (sampleDocument 50000000000) = .ok config ∧
        Lists (sampleDocument 50000000000) entries ∧ List.Forall₂ Describes entries config := by
  obtain ⟨hread, -, hcurves⟩ := ofValue_accepts (sampleDocument 50000000000)
  obtain ⟨hread', hrefused, -⟩ := ofValue_accepts (sampleDocument 0)
  have haccepted : ofValue (sampleDocument 50000000000) =
      .ok [⟨.ofString "rly", Genesis.sample.line, 50000000000, by decide⟩] := rfl
  have hempty : ofValue (sampleDocument 0) = .error (.invalid (.noSupply (.ofString "rly"))) := rfl
  have hform : ¬ WellFormed (sampleDocument 0) := by
    intro h
    obtain ⟨config, hconfig⟩ := hread'.mpr h
    rw [hempty] at hconfig
    nomatch hconfig
  obtain ⟨entries, hlists, hdescribes, -⟩ := hcurves _ haccepted
  exact ⟨hread.mp ⟨_, haccepted⟩, hform, hrefused hform, _, entries, haccepted, hlists, hdescribes⟩

end Config

end BondingPool
