import Mathlib.Data.List.Forall2
import BondingPool.Config
import BondingPool.Proofs.KeyOrder
import BondingPool.Proofs.Run

/-!
# What the loader takes and what it turns down

A curve is accepted exactly if its body spells it: the five known keys and no other, each with the
curve's own number. A document is accepted if all its entries are, and one refusal, the first, is the
answer for the whole document. The supply is held to be positive but not to fit a word, so a curve
can be accepted that no pool opens on, and unknown keys that have no order cannot be reported.
-/

namespace BondingPool

/-! ### Terms -/

namespace Terms

variable {ε α β : Type}

@[simp]
theorem get_ofFn (f : Term → α) (term : Term) : (ofFn f).get term = f term := by
  cases term <;> rfl

@[simp]
theorem get_map (f : α → β) (t : Terms α) (term : Term) : (t.map f).get term = f (t.get term) :=
  get_ofFn _ term

theorem traverse_eq_ok_iff {f : Term → α → Except ε β} {t : Terms α} {s : Terms β} :
    t.traverse f = .ok s ↔ ∀ term, f term (t.get term) = .ok (s.get term) := by
  simp only [traverse, bind_eq_ok_iff]
  constructor
  · rintro ⟨a, ha, b, hb, c, hc, d, hd, h⟩
    cases h
    intro term
    cases term
    exacts [ha, hb, hc, hd]
  · intro h
    exact ⟨_, h .slopeNumerator, _, h .slopeDenominator, _, h .baseNumerator, _,
      h .baseDenominator, rfl⟩

end Terms

namespace PriceLine

variable {line : PriceLine}

theorem admitTerm_eq_ok_iff {term : Term} {v : Value} {w : Word} :
    admitTerm term v = .ok w ↔ v = .int w.val := by
  unfold admitTerm
  constructor
  · intro h
    split at h
    · nomatch h
    · next n hint =>
      split at h
      · nomatch h
      · next hword =>
        cases h
        rw [Value.int?_eq_some_iff.mp hint, Word.ofInt?_eq_some_iff.mp hword]
  · rintro rfl
    simp only [Value.int?, Word.ofInt?_val]

theorem ofValues_eq_ok_iff {t : Terms Value} :
    ofValues t = .ok line ↔ ∀ term, t.get term = .int (line.terms.get term) := by
  simp only [ofValues, bind_eq_ok_iff, Terms.traverse_eq_ok_iff, admitTerm_eq_ok_iff,
    ofWords_eq_ok_iff]
  constructor
  · rintro ⟨words, hwords, rfl⟩ term
    rw [hwords term, terms, Terms.get_map]
  · intro h
    refine ⟨line.words, fun term => ?_, rfl⟩
    rw [h term, terms, Terms.get_map]

theorem ofValues_terms (line : PriceLine) :
    ofValues (line.terms.map fun n : Nat => .int n) = .ok line :=
  ofValues_eq_ok_iff.mpr fun term => Terms.get_map _ _ term

end PriceLine

/-! ### One body -/

section Unreasoned

variable {α : Type} {fault : DocumentFault}

/-- The answer is no refusal with a reason. -/
def Unreasoned (answer : Except DocumentFault α) : Prop := ∀ cause, answer ≠ .error (.invalid cause)

theorem unreasoned_ok (a : α) : Unreasoned (.ok a) := nofun

theorem unreasoned_error (h : ∀ cause, fault ≠ .invalid cause) :
    Unreasoned (.error fault : Except DocumentFault α) :=
  fun cause heq => h cause (Except.error.inj heq)

end Unreasoned

namespace CurveConfig

variable {name : Text} {body : List (Value × Value)} {curve : CurveConfig}

def unknownKeys (body : List (Value × Value)) : List Value :=
  (body.map (·.1)).filter (!isKnownKey ·)

/-- The body has the five known keys and no other, each with the curve's own number. -/
structure SpelledBy (curve : CurveConfig) (body : List (Value × Value)) : Prop where
  known : unknownKeys body = []
  terms : ∀ term, Value.field? body term.key = some (.int (curve.line.terms.get term))
  supply : Value.field? body supplyKey = some (.int curve.supply)

theorem integerField_eq_ok_iff {key : String} {n : Int} :
    integerField name body key = .ok n ↔ Value.field? body key = some (.int n) := by
  unfold integerField
  constructor
  · intro h
    split at h
    · next m hfield =>
      cases h
      obtain ⟨v, hv, hint⟩ := Option.bind_eq_some_iff.mp hfield
      rw [hv, Value.int?_eq_some_iff.mp hint]
    · nomatch h
  · intro h
    simp only [h, Option.bind_some, Value.int?]

theorem ofFields_eq_ok_iff :
    ofFields name body = .ok curve ↔ curve.name = name ∧
      (∀ term, Value.field? body term.key = some (.int (curve.line.terms.get term))) ∧
      Value.field? body supplyKey = some (.int curve.supply) := by
  simp only [ofFields, bind_eq_ok_iff, mapError_eq_ok_iff, Terms.traverse_eq_ok_iff,
    integerField_eq_ok_iff, PriceLine.ofValues_eq_ok_iff, Terms.get_map, Terms.get_ofFn, id_eq]
  constructor
  · rintro ⟨terms, hterms, line, hline, supply, hsupply, h⟩
    split at h
    · next hpos =>
      cases h
      refine ⟨rfl, fun term => ?_, ?_⟩
      · rw [hterms term, hline term]
      · rw [hsupply, Int.toNat_of_nonneg (by omega)]
    · nomatch h
  · rintro ⟨rfl, hterms, hsupply⟩
    refine ⟨curve.line.terms.map Int.ofNat, fun term => ?_, curve.line, fun term => ?_, curve.supply,
      hsupply, ?_⟩
    · rw [hterms term, Terms.get_map]
      rfl
    · rw [Terms.get_map]
      rfl
    · exact dif_pos curve.supply_pos

def missingKeys (body : List (Value × Value)) : List String :=
  keys.filter fun key => (Value.field? body key).isNone

theorem ofBody_eq :
    ofBody name body = match Value.sort? (unknownKeys body) with
      | none => .error .unordered
      | some (key :: rest) => .error (.invalid (.unknownKeys name ((key :: rest).map Value.label)))
      | some [] =>
        if missingKeys body ≠ [] then .error (.invalid (.missingKeys name (missingKeys body)))
        else (ofFields name body).mapError .invalid := rfl

theorem SpelledBy.missingKeys_eq_nil (h : curve.SpelledBy body) : missingKeys body = [] := by
  have hfield : ∀ key ∈ keys, ∃ n : Int, Value.field? body key = some (.int n) := by
    simp only [keys, List.mem_cons, List.not_mem_nil, or_false]
    rintro key (rfl | rfl | rfl | rfl | rfl)
    exacts [⟨_, h.supply⟩, ⟨_, h.terms _⟩, ⟨_, h.terms _⟩, ⟨_, h.terms _⟩, ⟨_, h.terms _⟩]
  refine List.filter_eq_nil_iff.mpr fun key hkey => ?_
  obtain ⟨n, hn⟩ := hfield key hkey
  rw [hn]
  nofun

theorem ofBody_eq_ok_iff :
    ofBody name body = .ok curve ↔ curve.name = name ∧ curve.SpelledBy body := by
  constructor
  · intro h
    rw [ofBody_eq] at h
    split at h
    · nomatch h
    · nomatch h
    · next hsort =>
      split at h
      · nomatch h
      · obtain ⟨hname, hterms, hsupply⟩ := ofFields_eq_ok_iff.mp (mapError_eq_ok_iff.mp h)
        exact ⟨hname, Value.sort?_eq_some_nil_iff.mp hsort, hterms, hsupply⟩
  · rintro ⟨hname, hspelled⟩
    rw [ofBody_eq, hspelled.known, hspelled.missingKeys_eq_nil]
    exact mapError_eq_ok_iff.mpr (ofFields_eq_ok_iff.mpr ⟨hname, hspelled.terms, hspelled.supply⟩)

theorem ofBody_unreasoned_iff {fault : DocumentFault} (hreason : ∀ cause, fault ≠ .invalid cause) :
    ofBody name body = .error fault ↔
      fault = .unordered ∧ Value.sort? (unknownKeys body) = none := by
  rw [ofBody_eq]
  constructor
  · intro h
    split at h
    · next hsort =>
      cases h
      exact ⟨rfl, hsort⟩
    · cases h
      exact absurd rfl (hreason _)
    · split at h
      · cases h
        exact absurd rfl (hreason _)
      · obtain ⟨cause, -, rfl⟩ := mapError_eq_error_iff.mp h
        exact absurd rfl (hreason cause)
  · rintro ⟨rfl, hsort⟩
    rw [hsort]

theorem ofEntry_eq_iff {key value : Value} {answer : Except DocumentFault CurveConfig}
    (hreason : Unreasoned answer) :
    ofEntry key value = answer ↔ ∃ name body, key = .text name ∧ name.hasInk = true ∧
      value = .dict body ∧ ofBody name body = answer := by
  constructor
  · intro h
    unfold ofEntry at h
    split at h
    · exact absurd h.symm (hreason _)
    · next name hname =>
      split at h
      · next hink =>
        split at h
        · exact absurd h.symm (hreason _)
        · next body hbody =>
          exact ⟨name, body, Value.text?_eq_some_iff.mp hname, hink,
            Value.dict?_eq_some_iff.mp hbody, h⟩
      · exact absurd h.symm (hreason _)
  · rintro ⟨name, body, rfl, hink, rfl, h⟩
    rw [← h]
    exact if_pos hink

theorem ofEntry_eq_ok_iff {key value : Value} :
    ofEntry key value = .ok curve ↔ key = .text curve.name ∧ curve.name.hasInk = true ∧
      ∃ body, value = .dict body ∧ curve.SpelledBy body := by
  rw [ofEntry_eq_iff (unreasoned_ok curve)]
  constructor
  · rintro ⟨name, body, hkey, hink, hvalue, h⟩
    obtain ⟨rfl, hspelled⟩ := ofBody_eq_ok_iff.mp h
    exact ⟨hkey, hink, body, hvalue, hspelled⟩
  · rintro ⟨hkey, hink, body, hvalue, hspelled⟩
    exact ⟨curve.name, body, hkey, hink, hvalue, ofBody_eq_ok_iff.mpr ⟨rfl, hspelled⟩⟩

end CurveConfig

/-! ### Whole documents -/

namespace Config

variable {entries : List (Value × Value)} {config : Config} {document : Value}

theorem ofEntries_eq_ok_iff :
    ofEntries entries = .ok config ↔
      List.Forall₂ (fun entry curve => CurveConfig.ofEntry entry.1 entry.2 = .ok curve)
        entries config := by
  induction entries generalizing config with
  | nil =>
    constructor
    · intro h
      cases h
      exact .nil
    · rintro ⟨⟩
      rfl
  | cons entry rest ih =>
    simp only [ofEntries, bind_eq_ok_iff, ih, List.forall₂_cons_left_iff]
    constructor
    · rintro ⟨first, hfirst, others, hothers, h⟩
      cases h
      exact ⟨first, others, hfirst, hothers, rfl⟩
    · rintro ⟨first, others, hfirst, hothers, rfl⟩
      exact ⟨first, hfirst, others, hothers, rfl⟩

theorem exists_entry_of_ofEntries (h : ofEntries entries = .ok config) {curve : CurveConfig}
    (hmem : curve ∈ config) : ∃ entry ∈ entries, CurveConfig.ofEntry entry.1 entry.2 = .ok curve :=
  exists_mem_of_forall₂ (ofEntries_eq_ok_iff.mp h).flip hmem

theorem ofEntries_eq_error_iff {fault : DocumentFault} :
    ofEntries entries = .error fault ↔ ∃ before entry after config,
      entries = before ++ entry :: after ∧ ofEntries before = .ok config ∧
        CurveConfig.ofEntry entry.1 entry.2 = .error fault := by
  induction entries with
  | nil =>
    constructor
    · nofun
    · rintro ⟨before, entry, after, config, h, -⟩
      simp at h
  | cons entry rest ih =>
    simp only [ofEntries, bind_eq_error_iff, ih]
    constructor
    · rintro (h | ⟨first, hfirst, hrest⟩)
      · exact ⟨[], entry, rest, [], rfl, rfl, h⟩
      · rcases hrest with ⟨before, refused, after, config, rfl, hbefore, h⟩ | ⟨others, -, h⟩
        · refine ⟨entry :: before, refused, after, first :: config, rfl, ?_, h⟩
          rw [ofEntries, hfirst, ok_bind, hbefore]
          rfl
        · nomatch h
    · rintro ⟨before, refused, after, config, hsplit, hbefore, h⟩
      cases before with
      | nil =>
        cases hsplit
        exact .inl h
      | cons entry' before =>
        cases hsplit
        rw [ofEntries, bind_eq_ok_iff] at hbefore
        obtain ⟨first, hfirst, hbefore⟩ := hbefore
        obtain ⟨others, hothers, -⟩ := bind_eq_ok_iff.mp hbefore
        exact .inr ⟨first, hfirst, .inl ⟨before, refused, after, others, rfl, hothers, h⟩⟩

/-- The document is a mapping with these entries for its curves. -/
def Lists (document : Value) (entries : List (Value × Value)) : Prop :=
  ∃ fields, document = .dict fields ∧ Value.field? fields "curves" = some (.dict entries)

theorem ofValue_of_lists (h : Lists document entries) (hne : entries ≠ []) :
    ofValue document = ofEntries entries := by
  obtain ⟨fields, rfl, hfield⟩ := h
  cases entries with
  | nil => exact absurd rfl hne
  | cons entry rest =>
    rw [ofValue, Value.dict?]
    simp only [hfield, Option.bind_some, Value.dict?]

theorem ofValue_eq_iff {answer : Except DocumentFault Config} (hreason : Unreasoned answer) :
    ofValue document = answer ↔
      ∃ entries, Lists document entries ∧ entries ≠ [] ∧ ofEntries entries = answer := by
  constructor
  · intro h
    unfold ofValue at h
    split at h
    · exact absurd h.symm (hreason _)
    · next fields hfields =>
      split at h
      · exact absurd h.symm (hreason _)
      · exact absurd h.symm (hreason _)
      · next entry rest hcurves =>
        obtain ⟨curves, hfield, hdict⟩ := Option.bind_eq_some_iff.mp hcurves
        rw [Value.dict?_eq_some_iff] at hfields hdict
        exact ⟨entry :: rest, ⟨fields, hfields, hdict ▸ hfield⟩, List.cons_ne_nil _ _, h⟩
  · rintro ⟨entries, hlists, hne, rfl⟩
    exact ofValue_of_lists hlists hne

theorem ofValue_eq_ok_iff :
    ofValue document = .ok config ↔
      ∃ entries, Lists document entries ∧ entries ≠ [] ∧ ofEntries entries = .ok config :=
  ofValue_eq_iff (unreasoned_ok config)

theorem exists_entry_of_ofValue (h : ofValue document = .ok config) {curve : CurveConfig}
    (hmem : curve ∈ config) :
    ∃ entries body, Lists document entries ∧ (.text curve.name, .dict body) ∈ entries ∧
      curve.SpelledBy body := by
  obtain ⟨entries, hlists, -, hentries⟩ := ofValue_eq_ok_iff.mp h
  obtain ⟨⟨key, value⟩, hentry, hcurve⟩ := exists_entry_of_ofEntries hentries hmem
  obtain ⟨rfl, -, body, rfl, hspelled⟩ := CurveConfig.ofEntry_eq_ok_iff.mp hcurve
  exact ⟨entries, body, hlists, hentry, hspelled⟩

theorem ofEntries_unreasoned_iff {fault : DocumentFault}
    (hreason : ∀ cause, fault ≠ .invalid cause) :
    ofEntries entries = .error fault ↔ fault = .unordered ∧ ∃ before name body after config,
      entries = before ++ (.text name, .dict body) :: after ∧ ofEntries before = .ok config ∧
        name.hasInk = true ∧ Value.sort? (CurveConfig.unknownKeys body) = none := by
  rw [ofEntries_eq_error_iff]
  constructor
  · rintro ⟨before, ⟨key, value⟩, after, config, rfl, hbefore, hentry⟩
    obtain ⟨name, body, rfl, hink, rfl, hbody⟩ :=
      (CurveConfig.ofEntry_eq_iff (unreasoned_error hreason)).mp hentry
    obtain ⟨hfault, hsort⟩ := (CurveConfig.ofBody_unreasoned_iff hreason).mp hbody
    exact ⟨hfault, before, name, body, after, config, rfl, hbefore, hink, hsort⟩
  · rintro ⟨hfault, before, name, body, after, config, rfl, hbefore, hink, hsort⟩
    refine ⟨before, (.text name, .dict body), after, config, rfl, hbefore, ?_⟩
    have hbody : CurveConfig.ofBody name body = .error fault :=
      (CurveConfig.ofBody_unreasoned_iff hreason).mpr ⟨hfault, hsort⟩
    exact (CurveConfig.ofEntry_eq_iff (unreasoned_error hreason)).mpr
      ⟨name, body, rfl, hink, rfl, hbody⟩

theorem ofValue_unreasoned_iff {fault : DocumentFault} (hreason : ∀ cause, fault ≠ .invalid cause) :
    ofValue document = .error fault ↔ fault = .unordered ∧ ∃ before name body after config,
      Lists document (before ++ (.text name, .dict body) :: after) ∧
        ofEntries before = .ok config ∧ name.hasInk = true ∧
        Value.sort? (CurveConfig.unknownKeys body) = none := by
  rw [ofValue_eq_iff (unreasoned_error hreason)]
  constructor
  · rintro ⟨entries, hlists, -, h⟩
    obtain ⟨hfault, before, name, body, after, config, rfl, hbody⟩ :=
      (ofEntries_unreasoned_iff hreason).mp h
    exact ⟨hfault, before, name, body, after, config, hlists, hbody⟩
  · rintro ⟨hfault, before, name, body, after, config, hlists, hbody⟩
    refine ⟨_, hlists, by simp, (ofEntries_unreasoned_iff hreason).mpr ?_⟩
    exact ⟨hfault, before, name, body, after, config, rfl, hbody⟩

/-- A document is accepted, or turned down with a reason, or the unknown keys of its first faulty
entry have no order. -/
theorem ofValue_answers (document : Value) :
    ((∃ config, ofValue document = .ok config) ∨
        (∃ cause, ofValue document = .error (.invalid cause)) ∨
        ofValue document = .error .unordered) ∧
      (ofValue document = .error .unordered ↔ ∃ before name body after config,
        Lists document (before ++ (.text name, .dict body) :: after) ∧
          ofEntries before = .ok config ∧ name.hasInk = true ∧
          Value.sort? (CurveConfig.unknownKeys body) = none) ∧
      ∀ body,
        (∀ v ∈ CurveConfig.unknownKeys body, ∀ w ∈ CurveConfig.unknownKeys body,
          v ≠ w → ¬ v.SharesKind w → Value.sort? (CurveConfig.unknownKeys body) = none) ∧
        (Value.sort? (CurveConfig.unknownKeys body) = none →
          ∃ v ∈ CurveConfig.unknownKeys body, ∃ w ∈ CurveConfig.unknownKeys body,
            v.before? w = none) := by
  refine ⟨?_, ?_, fun body => ⟨?_, Value.exists_before?_eq_none⟩⟩
  · cases h : ofValue document with
    | ok config => exact .inl ⟨config, rfl⟩
    | error fault =>
      cases fault with
      | invalid cause => exact .inr (.inl ⟨cause, rfl⟩)
      | unordered => exact .inr (.inr rfl)
      | noValue cause => exact absurd ((ofValue_unreasoned_iff (by nofun)).mp h).1 (by nofun)
  · rw [ofValue_unreasoned_iff (by nofun)]
    exact and_iff_right rfl
  · intro v hv w hw hne hkinds
    exact Value.sort?_eq_none_of_kinds hv hw hne hkinds

/-- The unknown keys are a number and a text. -/
theorem ofValue_unordered :
    ofValue (.dict [(.text (.ofString "curves"), .dict [(.text (.ofString "x"),
      .dict [(.int 1, .int 2), (.text (.ofString "a"), .int 3)])])]) = .error .unordered := rfl

theorem ofValue_ne_unordered_of_texts
    (h : ∀ entries name body, Lists document entries → (.text name, .dict body) ∈ entries →
      ∀ key ∈ CurveConfig.unknownKeys body, ∃ t, key = .text t) :
    ofValue document ≠ .error .unordered := by
  intro hunordered
  obtain ⟨-, before, name, body, after, config, hlists, -, -, hsort⟩ :=
    (ofValue_unreasoned_iff (by nofun)).mp hunordered
  have htexts := h _ name body hlists (List.mem_append_right before List.mem_cons_self)
  obtain ⟨v, hv, w, hw, hbefore⟩ := Value.exists_before?_eq_none hsort
  obtain ⟨s, rfl⟩ := htexts v hv
  obtain ⟨t, rfl⟩ := htexts w hw
  nomatch hbefore

end Config

/-! ### Opening an accepted curve -/

namespace Genesis

theorem ofValues_terms (line : PriceLine) (collateral bonded : Value) (fees : Fees) :
    ofValues (line.terms.map fun n : Nat => .int n) collateral bonded fees =
      ofLine line collateral bonded fees := by
  rw [ofValues, PriceLine.ofValues_terms]
  rfl

theorem admitBalance_word (role : AmountRole) (w : Word) :
    admitBalance role (.int w.val) = .ok w := by
  rw [admitBalance, Value.int?, Option.bind_some, Word.ofInt?_val]

theorem admitBalance_of_lt (role : AmountRole) {n : Nat} (h : maxWord < n) :
    admitBalance role (.int n) = .error (.invalidCurve (.genesisBalance role (toString n))) := by
  rw [admitBalance, Value.int?, Option.bind_some, Word.ofInt?_eq_none_iff.mpr (.inr (by omega))]
  rfl

theorem ofLine_free (line : PriceLine) (supply : Word) (h : 0 < supply.val) :
    ofLine line (.int 0) (.int supply.val) .free =
      .ok ⟨line, supply, .free, h, Fees.isFree_free⟩ := by
  have hseed : admitBalance .collateral (.int 0) = .ok .zero := admitBalance_word .collateral .zero
  have hunseeded : ¬ Word.zero.val ≠ 0 := not_not_intro rfl
  rw [ofLine, hseed, admitBalance_word, ok_bind, ok_bind, if_neg hunseeded,
    dif_neg (Nat.ne_of_gt h), dif_pos Fees.isFree_free]

end Genesis

namespace CurveConfig

variable {curve : CurveConfig}

theorem genesis_of_le (h : curve.supply ≤ maxWord) :
    ∃ g, curve.genesis = .ok g ∧ g.pool = ⟨⟨curve.line, .free⟩, .zero, ⟨curve.supply, h⟩⟩ :=
  ⟨_, Genesis.ofLine_free curve.line ⟨curve.supply, h⟩ curve.supply_pos, rfl⟩

theorem genesis_of_lt (h : maxWord < curve.supply) :
    curve.genesis = .error (.invalidCurve (.genesisBalance .bonded (toString curve.supply))) := by
  rw [genesis, Genesis.ofLine, Genesis.admitBalance_of_lt _ h]
  rfl

end CurveConfig

namespace Config

variable {document : Value} {config : Config} {curve : CurveConfig}

/-- An accepted curve opens exactly if its supply fits a word, and then on the terms and the supply
that its body spells. -/
theorem genesis_of_ofValue (h : ofValue document = .ok config) (hmem : curve ∈ config) :
    (∃ entries body, Lists document entries ∧ (.text curve.name, .dict body) ∈ entries ∧
        curve.SpelledBy body) ∧
      curve.genesis = Genesis.ofValues (curve.line.terms.map fun n : Nat => .int n) (.int 0)
        (.int curve.supply) .free ∧
      (∀ hfits : curve.supply ≤ maxWord, ∃ g, curve.genesis = .ok g ∧
        g.pool = ⟨⟨curve.line, .free⟩, .zero, ⟨curve.supply, hfits⟩⟩) ∧
      (maxWord < curve.supply → curve.genesis =
        .error (.invalidCurve (.genesisBalance .bonded (toString curve.supply)))) := by
  refine ⟨exists_entry_of_ofValue h hmem, ?_, CurveConfig.genesis_of_le, CurveConfig.genesis_of_lt⟩
  exact (Genesis.ofValues_terms curve.line _ _ _).symm

def sampleDocument (supply : Int) : Value :=
  .dict [(.text (.ofString "curves"), .dict [(.text (.ofString "rly"), .dict
    [(.text (.ofString Term.slopeNumerator.key), .int 1),
     (.text (.ofString Term.slopeDenominator.key), .int 200000000),
     (.text (.ofString Term.baseNumerator.key), .int 150),
     (.text (.ofString Term.baseDenominator.key), .int 3),
     (.text (.ofString supplyKey), .int supply)])])]

theorem genesis_of_ofValue_sample :
    ∃ config curve g, ofValue (sampleDocument 50000000000) = .ok config ∧ curve ∈ config ∧
      curve.genesis = .ok g ∧ g.pool = Genesis.sample.pool := by
  have haccepted : ofValue (sampleDocument 50000000000) =
      .ok [⟨.ofString "rly", Genesis.sample.line, 50000000000, by decide⟩] := rfl
  have hmem := List.mem_singleton_self
    (⟨.ofString "rly", Genesis.sample.line, 50000000000, by decide⟩ : CurveConfig)
  obtain ⟨-, -, hopens, -⟩ := genesis_of_ofValue haccepted hmem
  obtain ⟨g, hg, hpool⟩ := hopens (by decide)
  exact ⟨_, _, g, haccepted, hmem, hg, hpool⟩

/-- The supply is the least number that fits no word. -/
theorem genesis_of_ofValue_refused :
    ∃ config curve, ofValue (sampleDocument (maxWord + 1)) = .ok config ∧ curve ∈ config ∧
      ∀ g, curve.genesis ≠ .ok g := by
  refine ⟨_, _, rfl, List.mem_singleton_self _, ?_⟩
  intro g
  nofun

end Config

end BondingPool
