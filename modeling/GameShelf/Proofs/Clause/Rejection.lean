import GameShelf.Proofs.Clause.Grammar

/-!
# Why a text is no clause

A text that is no clause is refused with one error, although more may be wrong with it.  This file
says with which, without mentioning the stages of the reader.

* `Operator.Divides` says that an operator's token takes the text apart into two parts, of which
  neither is blank.
* `Clause.Rejects` lists the reasons, each with its error.  A reason applies only where those before
  it do not: there is no field without two parts, and no value without a field.  The operator is
  matched with the field last, so a value that cannot be read is reported first.
* `Clause.parse_eq_error_iff` says that reading fails for exactly these reasons.
-/

set_option autoImplicit false

namespace GameShelf

variable {t before after : Text} {operator : Operator} {field : Field} {value : Value} {e : Error}

/-! ## Two parts -/

/-- The operator of the text stands once, between two parts that are not blank. -/
structure Operator.Divides (operator : Operator) (t before after : Text) : Prop where
  firstIn : operator.FirstIn t
  cut : Text.LeftmostCut operator.token.toList t before after
  once : ¬ operator.token.toList <:+: after
  before_ne_nil : before.trim ≠ []
  after_ne_nil : after.trim ≠ []

theorem Operator.detect?_eq_none_iff :
    detect? t = none ↔ ∀ operator : Operator, ¬ operator.token.toList <:+: t := by
  rw [detect?, List.find?_eq_none]
  constructor
  · intro hnone operator hin
    exact hnone operator (mem_all operator) (Text.includes_iff_isInfix.2 hin)
  · intro hnone operator _ hin
    exact hnone operator (Text.includes_iff_isInfix.1 hin)

namespace Clause

theorem split?_eq_some_iff_divides (hfirst : operator.FirstIn t) {fieldText valueText : Text} :
    split? operator.token.toList t = some (fieldText, valueText) ↔
      ∃ before after, operator.Divides t before after ∧
        before.trim = fieldText ∧ after.trim = valueText := by
  rw [split?_eq_some_iff]
  constructor
  · rintro ⟨before, after, hcut, honce, ⟨hbefore, hfield⟩, hafter, hvalue⟩
    exact ⟨before, after, ⟨hfirst, hcut, honce, hbefore, hafter⟩, hfield, hvalue⟩
  · rintro ⟨before, after, hdivides, hfield, hvalue⟩
    exact ⟨before, after, hdivides.cut, hdivides.once, ⟨hdivides.before_ne_nil, hfield⟩,
      hdivides.after_ne_nil, hvalue⟩

/-- A text that holds the token is not split where the token stands again or a part is blank. -/
theorem split?_eq_none_iff (hfirst : operator.FirstIn t) :
    split? operator.token.toList t = none ↔
      ∃ before after, Text.LeftmostCut operator.token.toList t before after ∧
        (operator.token.toList <:+: after ∨ before.trim = [] ∨ after.trim = []) := by
  constructor
  · intro hsplit
    cases hcut : t.cut? operator.token.toList with
    | none => exact absurd (Operator.firstIn_iff.1 hfirst).1 (Text.cut?_eq_none_iff.1 hcut)
    | some parts =>
        rcases parts with ⟨before, after⟩
        have hleftmost := Text.cut?_eq_some_iff.1 hcut
        refine ⟨before, after, hleftmost, ?_⟩
        -- Were nothing wrong with the parts, they would be a split.
        by_contra hgood
        simp only [not_or] at hgood
        have hsome := split?_eq_some_iff.2
          ⟨before, after, hleftmost, hgood.1, ⟨hgood.2.1, rfl⟩, hgood.2.2, rfl⟩
        rw [hsplit] at hsome
        cases hsome
  · rintro ⟨before, after, hcut, hbad⟩
    cases hsplit : split? operator.token.toList t with
    | none => rfl
    | some texts =>
        rcases split?_eq_some_iff.1 hsplit with
          ⟨front, back, hcut', honce, ⟨hfront, -⟩, hback, -⟩
        rcases hcut.unique hcut' with ⟨rfl, rfl⟩
        rcases hbad with hagain | hblank | hblank
        · exact absurd hagain honce
        · exact absurd hblank hfront
        · exact absurd hblank hback

end Clause

/-! ## Fields, values and operators -/

theorem Field.ofFilterText?_eq_some_iff :
    ofFilterText? t = some field ↔ normalizeName t = field.filterName.toList :=
  ofFilterName?_eq_some_iff

theorem Field.ofFilterText?_eq_none_iff :
    ofFilterText? t = none ↔ ∀ field : Field, normalizeName t ≠ field.filterName.toList := by
  rw [Option.eq_none_iff_forall_ne_some]
  simp only [ne_eq, ofFilterText?_eq_some_iff]

/-- Containment on numbers is the only use of an operator that is refused. -/
theorem Operator.appliesTo_eq_false_iff {kind : Kind} :
    operator.appliesTo kind = false ↔ operator = .contains ∧ kind ≠ .text := by
  cases operator <;> cases kind <;> decide

namespace Clause

theorem readFieldValue_eq_error_iff :
    readFieldValue field t = .error e ↔
      ∃ fault, readValue field.kind t = .error fault ∧ .malformedValue field t fault = e :=
  mapError_eq_error_iff

theorem readFieldValue_eq_ok_iff :
    readFieldValue field t = .ok value ↔ readValue field.kind t = .ok value :=
  mapError_eq_ok_iff

/-- A value of the field's own kind is never the reason why a clause cannot be built. -/
theorem build_eq_error_iff (hkind : value.kind = field.kind) :
    build field operator value = .error e ↔
      operator.appliesTo field.kind = false ∧ .unsupportedOperator field operator = e := by
  have haccepted : field.kind.accepts value.kind = true := by
    rw [hkind]
    cases field.kind <;> rfl
  cases happlies : operator.appliesTo field.kind with
  | true => simp [build, happlies, haccepted]
  | false => simp [build, happlies]

/-! ## The reasons -/

/-- The text is no clause, and this error says why. -/
inductive Rejects (t : Text) : Error → Prop
  | noOperator (hnone : ∀ operator : Operator, ¬ operator.token.toList <:+: t) :
      Rejects t (.malformedClause t .noOperator)
  | shape {operator : Operator} {before after : Text} (hfirst : operator.FirstIn t)
      (hcut : Text.LeftmostCut operator.token.toList t before after)
      (hbad : operator.token.toList <:+: after ∨ before.trim = [] ∨ after.trim = []) :
      Rejects t (.malformedClause t (.shape operator))
  | unknownField {operator : Operator} {before after : Text}
      (hdivides : operator.Divides t before after)
      (hunknown : ∀ field : Field, Field.normalizeName before.trim ≠ field.filterName.toList) :
      Rejects t (.malformedClause t (.unknownField before.trim))
  | malformedValue {operator : Operator} {before after : Text} {field : Field}
      {fault : Numeral.Fault} (hdivides : operator.Divides t before after)
      (hnamed : Field.normalizeName before.trim = field.filterName.toList)
      (hvalue : readValue field.kind after.trim = .error fault) :
      Rejects t (.malformedValue field after.trim fault)
  | unsupportedOperator {before after : Text} {field : Field} {value : Value}
      (hdivides : Operator.contains.Divides t before after)
      (hnamed : Field.normalizeName before.trim = field.filterName.toList)
      (hkind : field.kind ≠ .text) (hvalue : readValue field.kind after.trim = .ok value) :
      Rejects t (.unsupportedOperator field .contains)

/-! ### Reading stage by stage -/

theorem parse_of_detect?_eq_none (hdetect : Operator.detect? t = none) :
    parse t = .error (.malformedClause t .noOperator) := by
  rw [parse, hdetect]
  rfl

theorem parse_of_split?_eq_none (hdetect : Operator.detect? t = some operator)
    (hsplit : split? operator.token.toList t = none) :
    parse t = .error (.malformedClause t (.shape operator)) := by
  simp only [parse, hdetect, hsplit]
  rfl

theorem parse_of_ofFilterText?_eq_none {fieldText valueText : Text}
    (hdetect : Operator.detect? t = some operator)
    (hsplit : split? operator.token.toList t = some (fieldText, valueText))
    (hfield : Field.ofFilterText? fieldText = none) :
    parse t = .error (.malformedClause t (.unknownField fieldText)) := by
  simp only [parse, hdetect, hsplit, hfield]
  rfl

/-- Two parts and a field: what is left is to read the value and to match it with the operator. -/
theorem parse_of_divides (hdivides : operator.Divides t before after)
    (hnamed : Field.normalizeName before.trim = field.filterName.toList) :
    parse t = readFieldValue field after.trim >>= build field operator := by
  have hdetect := Operator.detect?_eq_some_iff.2 hdivides.firstIn
  have hsplit := (split?_eq_some_iff_divides hdivides.firstIn).2 ⟨_, _, hdivides, rfl, rfl⟩
  have hfield := Field.ofFilterText?_eq_some_iff.2 hnamed
  simp only [parse, hdetect, hsplit, hfield]

/-! ### Exactly the reasons -/

theorem Rejects.parse (h : Rejects t e) : Clause.parse t = .error e := by
  cases h with
  | noOperator hnone => exact parse_of_detect?_eq_none (Operator.detect?_eq_none_iff.2 hnone)
  | shape hfirst hcut hbad =>
      exact parse_of_split?_eq_none (Operator.detect?_eq_some_iff.2 hfirst)
        ((split?_eq_none_iff hfirst).2 ⟨_, _, hcut, hbad⟩)
  | unknownField hdivides hunknown =>
      exact parse_of_ofFilterText?_eq_none (Operator.detect?_eq_some_iff.2 hdivides.firstIn)
        ((split?_eq_some_iff_divides hdivides.firstIn).2 ⟨_, _, hdivides, rfl, rfl⟩)
        (Field.ofFilterText?_eq_none_iff.2 hunknown)
  | malformedValue hdivides hnamed hvalue =>
      rw [parse_of_divides hdivides hnamed, readFieldValue_eq_error_iff.2 ⟨_, hvalue, rfl⟩]
      rfl
  | unsupportedOperator hdivides hnamed hkind hvalue =>
      have hread := readFieldValue_eq_ok_iff.2 hvalue
      rw [parse_of_divides hdivides hnamed, hread]
      exact (build_eq_error_iff (kind_of_readFieldValue hread)).2
        ⟨Operator.appliesTo_eq_false_iff.2 ⟨rfl, hkind⟩, rfl⟩

theorem rejects_of_parse (h : Clause.parse t = .error e) : Rejects t e := by
  -- The first stage that fails gives the reason.
  cases hdetect : Operator.detect? t with
  | none =>
      rw [parse_of_detect?_eq_none hdetect] at h
      cases h
      exact .noOperator (Operator.detect?_eq_none_iff.1 hdetect)
  | some operator =>
      have hfirst := Operator.detect?_eq_some_iff.1 hdetect
      cases hsplit : split? operator.token.toList t with
      | none =>
          rw [parse_of_split?_eq_none hdetect hsplit] at h
          cases h
          rcases (split?_eq_none_iff hfirst).1 hsplit with ⟨before, after, hcut, hbad⟩
          exact .shape hfirst hcut hbad
      | some texts =>
          rcases (split?_eq_some_iff_divides hfirst).1 hsplit with
            ⟨before, after, hdivides, hbefore, hafter⟩
          cases hfield : Field.ofFilterText? texts.1 with
          | none =>
              rw [parse_of_ofFilterText?_eq_none hdetect hsplit hfield] at h
              cases h
              rw [← hbefore] at hfield ⊢
              exact .unknownField hdivides (Field.ofFilterText?_eq_none_iff.1 hfield)
          | some field =>
              rw [← hbefore] at hfield
              have hnamed := Field.ofFilterText?_eq_some_iff.1 hfield
              rw [parse_of_divides hdivides hnamed] at h
              cases hread : readFieldValue field after.trim with
              | error e' =>
                  rw [hread] at h
                  cases h
                  rcases readFieldValue_eq_error_iff.1 hread with ⟨fault, hvalue, rfl⟩
                  exact .malformedValue hdivides hnamed hvalue
              | ok value =>
                  rw [hread] at h
                  rcases (build_eq_error_iff (kind_of_readFieldValue hread)).1 h with
                    ⟨happlies, rfl⟩
                  rcases Operator.appliesTo_eq_false_iff.1 happlies with ⟨rfl, hkind⟩
                  exact .unsupportedOperator hdivides hnamed hkind
                    (readFieldValue_eq_ok_iff.1 hread)

/-- Reading a clause fails for exactly these reasons, each with its error. -/
theorem parse_eq_error_iff : Clause.parse t = .error e ↔ Rejects t e :=
  ⟨rejects_of_parse, Rejects.parse⟩

/-- No text is refused as a value of the wrong kind: a value that was read is of the right one. -/
theorem Rejects.category (h : Rejects t e) :
    e.category = .malformedClause ∨ e.category = .malformedValue ∨
      e.category = .unsupportedOperator := by
  cases h with
  | noOperator => exact Or.inl rfl
  | shape => exact Or.inl rfl
  | unknownField => exact Or.inl rfl
  | malformedValue => exact Or.inr (Or.inl rfl)
  | unsupportedOperator => exact Or.inr (Or.inr rfl)

end Clause
end GameShelf
