import BondingPool.Encoding
import BondingPool.Proofs.Documents

/-!
# One line at every door

A line comes in as four terms, as a mapping, with the opening of a pool or in a configuration. The first
three doors give one answer, with the same fault where there is one. A configuration looks at the kinds
of all terms before it looks at any number, so its fault can be another, but it admits the same lines.
-/

namespace BondingPool

namespace Terms

def entries (t : Terms Value) : List (Value × Value) :=
  t.toList.map fun (term, v) => (.text (.ofString term.key), v)

theorem field?_entries_append (t : Terms Value) (rest : List (Value × Value)) (term : Term) :
    Value.field? (t.entries ++ rest) term.key = some (t.get term) := by
  cases term <;> rfl

end Terms

variable {t : Terms Value} {line : PriceLine} {fault : LineFault} {supply : Word}
  {entries body : List (Value × Value)} {name : Text} {document : Value}

namespace PriceLine

/-- The mapping has these terms, and no tag but that of the curves. -/
structure Carries (entries : List (Value × Value)) (t : Terms Value) : Prop where
  terms : ∀ term, Value.field? entries term.key = some (t.get term)
  tag : ∀ v, Value.field? entries tagKey = some v → v = .text (.ofString curveTag)

theorem carries_entries (t : Terms Value) : Carries t.entries t where
  terms term := List.append_nil t.entries ▸ t.field?_entries_append [] term
  tag v h := by nomatch h

theorem carries_tagged (t : Terms Value) :
    Carries ((.text (.ofString tagKey), .text (.ofString curveTag)) :: t.entries) t where
  terms term := by cases term <;> rfl
  tag v h := (Option.some.inj h).symm

theorem ofEntries_of_carries (h : Carries entries t) :
    ofEntries entries = (ofValues t).mapError .line := by
  have hmissing : (Term.all.filter fun term => (Value.field? entries term.key).isNone) = [] := by
    refine List.filter_eq_nil_iff.mpr fun term _ => ?_
    rw [h.terms term]
    nofun
  have hterms : Terms.ofFn (fun term => (Value.field? entries term.key).getD .null) = t := by
    refine Terms.ext_get fun term => ?_
    rw [Terms.get_ofFn, h.terms term, Option.getD_some]
  have htag : ((Value.field? entries tagKey).getD (.text (.ofString curveTag))).text? =
      some (.ofString curveTag) := by
    cases hfield : Value.field? entries tagKey with
    | none => rfl
    | some v =>
      rw [h.tag v hfield]
      rfl
  rw [ofEntries, hmissing, hterms, if_neg (not_not_intro htag), if_neg (not_not_intro rfl)]

theorem ofValue_toValue (line : PriceLine) : ofValue line.toValue = .ok line := by
  have hentries := ofEntries_of_carries (carries_tagged (line.terms.map fun n : ℕ => .int n))
  rw [ofValues_terms] at hentries
  exact hentries

end PriceLine

namespace Genesis

theorem ofValues_of_line (h : PriceLine.ofValues t = .ok line) (hsupply : 0 < supply.val) :
    ofValues t (.int 0) (.int supply.val) .free =
      .ok ⟨line, supply, .free, hsupply, Fees.isFree_free⟩ := by
  rw [ofValues, h]
  exact ofLine_free line supply hsupply

theorem ofValues_of_fault (h : PriceLine.ofValues t = .error fault) (collateral bonded : Value)
    (fees : Fees) : ofValues t collateral bonded fees = .error (.invalidCurve (.line fault)) := by
  rw [ofValues, h]
  rfl

end Genesis

namespace CurveConfig

/-- The body has the five known keys only, with these terms and this supply. -/
structure Holds (body : List (Value × Value)) (t : Terms Value) (supply : Word) : Prop where
  known : ∀ key ∈ body.map (·.1), key ∈ keys.map fun known => .text (.ofString known)
  terms : ∀ term, Value.field? body term.key = some (t.get term)
  supply : Value.field? body supplyKey = some (.int supply.val)

def bodyOf (t : Terms Value) (supply : Word) : List (Value × Value) :=
  t.entries ++ [(.text (.ofString supplyKey), .int supply.val)]

theorem holds_bodyOf (t : Terms Value) (supply : Word) : Holds (bodyOf t supply) t supply where
  known key h := by
    have hkeys : (bodyOf t supply).map (·.1) =
        (Term.all.map Term.key ++ [supplyKey]).map fun known => Value.text (.ofString known) := rfl
    have hknown : Term.all.map Term.key ++ [supplyKey] ⊆ keys := by decide
    rw [hkeys] at h
    exact List.map_subset _ hknown h
  terms := t.field?_entries_append _
  supply := rfl

theorem Holds.spelledBy (h : Holds body t supply) (hline : PriceLine.ofValues t = .ok line)
    (hsupply : 0 < supply.val) : SpelledBy ⟨name, line, supply.val, hsupply⟩ body where
  known := unknownKeys_eq_nil_iff.mpr h.known
  terms term := by rw [h.terms term, PriceLine.ofValues_eq_ok_iff.mp hline term]
  supply := h.supply

theorem Holds.ofValues_of_spelledBy {curve : CurveConfig} (h : Holds body t supply)
    (hcurve : curve.SpelledBy body) : PriceLine.ofValues t = .ok curve.line :=
  PriceLine.ofValues_eq_ok_iff.mpr fun term =>
    Option.some.inj ((h.terms term).symm.trans (hcurve.terms term))

theorem Holds.ofBody_of_line (h : Holds body t supply) (hline : PriceLine.ofValues t = .ok line)
    (hsupply : 0 < supply.val) :
    ofBody name body = .ok ⟨name, line, supply.val, hsupply⟩ :=
  ofBody_eq_ok_iff.mpr ⟨rfl, h.spelledBy hline hsupply⟩

theorem Holds.ofBody_of_fault (h : Holds body t supply) (hfault : PriceLine.ofValues t = .error fault) :
    ∃ cause, ofBody name body = .error (.invalid cause) := by
  cases hbody : ofBody name body with
  | ok curve =>
    have hline := h.ofValues_of_spelledBy (ofBody_eq_ok_iff.mp hbody).2
    nomatch hfault.symm.trans hline
  | error answer =>
    by_contra hreason
    have hne : ∀ cause, answer ≠ .invalid cause := by
      rintro cause rfl
      exact hreason ⟨cause, rfl⟩
    have hsort := ((ofBody_unreasoned_iff hne).mp hbody).2
    rw [unknownKeys_eq_nil_iff.mpr h.known] at hsort
    nomatch hsort

end CurveConfig

namespace Config

/-- A document of one curve of this name, which has something besides blanks, with this body. -/
structure Names (document : Value) (name : Text) (body : List (Value × Value)) : Prop where
  lists : Lists document [(.text name, .dict body)]
  ink : name.hasInk = true

def documentOf (name : Text) (body : List (Value × Value)) : Value :=
  .dict [(.text (.ofString "curves"), .dict [(.text name, .dict body)])]

theorem names_documentOf (h : name.hasInk = true) : Names (documentOf name body) name body :=
  ⟨⟨_, rfl, rfl⟩, h⟩

theorem Names.ofValue_eq (h : Names document name body) :
    ofValue document = (CurveConfig.ofBody name body).map fun curve => [curve] := by
  have hentry : CurveConfig.ofEntry (.text name) (.dict body) = CurveConfig.ofBody name body :=
    if_pos h.ink
  rw [ofValue_of_lists h.lists (List.cons_ne_nil _ _), ofEntries, hentry]
  cases CurveConfig.ofBody name body <;> rfl

end Config

namespace PriceLine

/-- Four values, the mappings that have them, the opening of a pool with them and every document of one
curve that has them are admitted as one line, or all are refused: the first three for one fault, the
document with a reason. And the mapping of a line is read as the line. -/
theorem doors_agree :
    (∀ (t : Terms Value) (supply : Word) (entries body : List (Value × Value)) (name : Text)
      (document : Value), 0 < supply.val → Carries entries t → CurveConfig.Holds body t supply →
        Config.Names document name body →
      (∃ (line : PriceLine) (g : Genesis) (curve : CurveConfig), ofValues t = .ok line ∧
        ofValue (.dict entries) = .ok line ∧
        Genesis.ofValues t (.int 0) (.int supply.val) .free = .ok g ∧ g.line = line ∧
        Config.ofValue document = .ok [curve] ∧ curve.line = line) ∨
      ∃ (fault : LineFault) (cause : ConfigFault), ofValues t = .error fault ∧
        ofValue (.dict entries) = .error (.line fault) ∧
        (CurveFault.line fault).message = fault.message ∧
        Genesis.ofValues t (.int 0) (.int supply.val) .free = .error (.invalidCurve (.line fault)) ∧
        (Rejection.invalidCurve (.line fault)).message = fault.message ∧
        Config.ofValue document = .error (.invalid cause)) ∧
    ∀ line : PriceLine, ofValue line.toValue = .ok line := by
  refine ⟨fun t supply entries body name document hsupply hmapping hbody hdocument => ?_,
    ofValue_toValue⟩
  have hentries : ofValue (.dict entries) = (ofValues t).mapError .line :=
    ofEntries_of_carries hmapping
  rw [hentries, hdocument.ofValue_eq]
  cases hline : ofValues t with
  | ok line =>
    refine .inl ⟨line, _, ⟨name, line, supply.val, hsupply⟩, rfl, rfl,
      Genesis.ofValues_of_line hline hsupply, rfl, ?_, rfl⟩
    rw [hbody.ofBody_of_line hline hsupply]
    rfl
  | error fault =>
    obtain ⟨cause, hcause⟩ := @CurveConfig.Holds.ofBody_of_fault _ _ _ _ name hbody hline
    refine .inr ⟨fault, cause, rfl, rfl, rfl, Genesis.ofValues_of_fault hline _ _ _, rfl, ?_⟩
    rw [hcause]
    rfl

def sampleTerms : Terms Value := Genesis.sample.line.terms.map fun n : ℕ => .int n

def flaggedTerms : Terms Value := { sampleTerms with slopeNumerator := .bool true }

def sampleDocumentOf (t : Terms Value) : Value :=
  Config.documentOf (.ofString "rly") (CurveConfig.bodyOf t Genesis.sample.supply)

theorem doors_agree_sample :
    (∃ line curve, ofValue (.dict sampleTerms.entries) = .ok line ∧
        Config.ofValue (sampleDocumentOf sampleTerms) = .ok [curve] ∧ curve.line = line) ∧
      ofValue (.dict flaggedTerms.entries) = .error (.line (.notInteger .slopeNumerator)) ∧
      ∃ cause, Config.ofValue (sampleDocumentOf flaggedTerms) = .error (.invalid cause) := by
  have hink : (Text.ofString "rly").hasInk = true := by decide
  have hagree := fun t : Terms Value => doors_agree.1 t Genesis.sample.supply t.entries _ _ _
    Genesis.sample.supply_pos (carries_entries t) (CurveConfig.holds_bodyOf t _)
    (Config.names_documentOf hink)
  have hline : ofValues sampleTerms = .ok Genesis.sample.line := ofValues_terms _
  have hfault : ofValues flaggedTerms = .error (.notInteger .slopeNumerator) := rfl
  refine ⟨?_, rfl, ?_⟩
  · rcases hagree sampleTerms with ⟨line, -, curve, -, hread, -, -, hdocument, hcurve⟩ | ⟨_, _, h, -⟩
    · exact ⟨line, curve, hread, hdocument, hcurve⟩
    · nomatch h.symm.trans hline
  · rcases hagree flaggedTerms with ⟨_, _, _, h, -⟩ | ⟨_, cause, -, -, -, -, -, hdocument⟩
    · nomatch h.symm.trans hfault
    · exact ⟨cause, hdocument⟩

end PriceLine

end BondingPool
