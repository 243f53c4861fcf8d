import GameShelf.Proofs.Clause.Leftmost

/-!
# Which names can be asked for

A clause `name operator v` can be written for every text `v`, but it is not always read as it is
meant.  A reader from the left would come upon the operator first, whatever `v` is
(`Clause.leads_nameText`).  The operator is sought by rank, though: a token in `v` that is sought
before it takes its place, and the clause is cut within `v`.  Its own token in `v` is one too many.
All other tokens do no harm.

`Clause.parse_nameText` says that this is exact: if `v` has none of these tokens, then the clause is
read as it is meant, and else it is malformed.
-/

set_option autoImplicit false

namespace GameShelf.Clause

variable {v before after : Text} {operator other : Operator} {field : Field}

/-- A reader from the left comes upon the operator that is meant. -/
theorem leads_nameText (operator : Operator) (v : Text) :
    operator.Leads (nameText operator v) "name ".toList (' ' :: v) := by
  have hunmarked : Text.Unmarked "name ".toList := by decide
  refine ⟨rfl, ?_, ?_⟩
  · intro other front back heq
    rw [nameText, List.append_assoc] at heq
    exact hunmarked.length_le heq
  · intro other back heq
    rw [nameText, List.append_assoc, List.append_assoc, List.append_cancel_left_eq,
      List.append_eq_append_iff] at heq
    rcases heq with ⟨longer, htoken, hrest⟩ | ⟨shorter, htoken, -⟩
    · -- A longer token would go on with the blank behind the operator.
      cases longer with
      | nil => simp [htoken]
      | cons c longer =>
          have hblank : ' ' ∈ other.token.toList := by
            rw [htoken, (List.cons.inj hrest).1]
            simp
          exact absurd hblank other.blank_not_mem_token
    · simp [htoken]

/-- If the clause is taken apart behind a name of a field, then it is as it is meant. -/
theorem spares_of_divides (h : other.Divides (nameText operator v) before after)
    (hnamed : Field.normalizeName before.trim = field.filterName.toList) : operator.Spares v := by
  rcases (h.leads hnamed).unique (leads_nameText operator v) with ⟨rfl, rfl, rfl⟩
  refine ⟨?_, ?_⟩
  · intro hin
    exact h.once (hin.trans (List.suffix_cons ' ' v).isInfix)
  · intro other hother hin
    exact (Operator.firstIn_iff.1 h.firstIn).2 other hother (isInfix_nameText_iff.2 (Or.inr hin))

theorem spares_of_parse {clause : Clause} (h : parse (nameText operator v) = .ok clause) :
    operator.Spares v := by
  rcases Reading.exists_fits_of_parse h with ⟨reading, hfits, -⟩
  exact spares_of_divides hfits.divides hfits.named

/-- Of the reasons for which a clause is refused, those about its value and its operator need two
parts and a field. -/
theorem exists_fault_of_not_spares (h : ¬ operator.Spares v) :
    ∃ fault, parse (nameText operator v) =
      .error (.malformedClause (nameText operator v) fault) := by
  cases hparse : parse (nameText operator v) with
  | ok clause => exact absurd (spares_of_parse hparse) h
  | error e =>
      cases rejects_of_parse hparse with
      | noOperator => exact ⟨_, rfl⟩
      | shape => exact ⟨_, rfl⟩
      | unknownField => exact ⟨_, rfl⟩
      | malformedValue hdivides hnamed => exact absurd (spares_of_divides hdivides hnamed) h
      | unsupportedOperator hdivides hnamed => exact absurd (spares_of_divides hdivides hnamed) h

/-- A text can be asked for as a name exactly if neither the operator's token nor one that is sought
before it occurs in the text.  Otherwise the clause is malformed. -/
theorem parse_nameText (operator : Operator) {v : Text} (hne : v ≠ []) (htrim : v.trim = v) :
    (operator.Spares v →
      ∃ clause, parse (nameText operator v) = .ok clause ∧ clause.field = .name ∧
        clause.operator = operator ∧ clause.value = .text v.lowercase) ∧
    (¬ operator.Spares v →
      ∃ fault, parse (nameText operator v) =
        .error (.malformedClause (nameText operator v) fault)) := by
  refine ⟨?_, exists_fault_of_not_spares⟩
  intro hspares
  have hblank : v.trim ≠ [] := by
    rw [htrim]
    exact hne
  rcases (fits_nameText hspares hblank).parse with ⟨clause, hparse, hfield, hoperator, hvalue⟩
  refine ⟨clause, hparse, hfield, hoperator, ?_⟩
  rw [hvalue, htrim]
  rfl

/-- `>` and `!=` may stand behind `==`, and `<=` may not. -/
theorem parse_nameText_marked :
    let good : Text := "Go > Azul != Ra".toList
    let bad : Text := "Go <= Azul".toList
    (∃ clause, parse (nameText .equal good) = .ok clause ∧
      clause.value = .text "go > azul != ra".toList) ∧
    ∃ fault, parse (nameText .equal bad) =
      .error (.malformedClause (nameText .equal bad) fault) := by
  intro good bad
  have hgood : Operator.equal.Spares good := ⟨by decide, by decide⟩
  have hbad : ¬ Operator.equal.Spares bad := by
    intro hspares
    exact hspares.first .lessEqual (by decide) (by decide)
  refine ⟨?_, (parse_nameText .equal (v := bad) (by decide) (by decide)).2 hbad⟩
  rcases (parse_nameText .equal (v := good) (by decide) (by decide)).1 hgood with
    ⟨clause, hparse, -, -, hvalue⟩
  refine ⟨clause, hparse, ?_⟩
  rw [hvalue]
  decide +kernel

/-- Not only the operator's own token keeps a text from being asked for. -/
theorem parse_nameText_not_always :
    ¬ ∀ (operator : Operator) (v : Text), v ≠ [] → v.trim = v →
      ¬ operator.token.toList <:+: v →
        ∃ clause, parse (nameText operator v) = .ok clause ∧ clause.field = .name ∧
          clause.operator = operator ∧ clause.value = .text v.lowercase := by
  intro h
  rcases h .equal "Go >= Azul".toList (by decide) (by decide) (by decide) with
    ⟨clause, hparse, -⟩
  -- `>=` is found first, and in front of it there is no field.
  have hrefused : parse (nameText .equal "Go >= Azul".toList) =
      .error (.malformedClause "name == Go >= Azul".toList
        (.unknownField "name == Go".toList)) := by
    decide +kernel
  rw [hrefused] at hparse
  cases hparse

end GameShelf.Clause
