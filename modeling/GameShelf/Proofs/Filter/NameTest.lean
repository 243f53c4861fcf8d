import GameShelf.Plan.Basic
import GameShelf.Proofs.Clause.Grammar
import GameShelf.Proofs.Filter.Conjunction
import GameShelf.Proofs.Text.FinalSigma

/-!
# Testing a name and looking it up

A clause on the name compares the texts as `lowercase` has them; a plan looks a name up, and a sort
by name places it, as `foldCase` has it.  The two differ at capital sigmas that end a word, and so
a clause can refuse a game that goes by the very name it asks for.

`Collection.name_test_eq_holds_iff` says for which texts that happens, for the test alone and for
the filter `name == X`.
-/

set_option autoImplicit false

namespace GameShelf

variable {v written : Text}

/-! ## Operators that see a sigma -/

/-- The texts clash at a sigma, and the operator minds which form decides. -/
def Operator.SigmaSensitive (operator : Operator) (a b : Text) : Prop :=
  ∃ decided rest, Text.SigmaClash a.casePairs b.casePairs decided rest ∧
    operator.holds decided ≠ operator.holds rest

theorem Operator.SigmaSensitive.hasFinalSigma {operator : Operator} {a b : Text}
    (h : operator.SigmaSensitive a b) : a.HasFinalSigma ∨ b.HasFinalSigma := by
  rcases h with ⟨decided, rest, hclash, -⟩
  exact hclash.hasFinalSigma

theorem Operator.holds_compare_eq_iff (operator : Operator) (a b : Text) :
    operator.holds (compare a.lowercase b.lowercase) = operator.holds (a.compareIgnoringCase b) ↔
      ¬ operator.SigmaSensitive a b := by
  rw [Text.compareIgnoringCase]
  -- In a clash one comparison has the outcome `decided` and the other the outcome `rest`.
  constructor
  · rintro heq ⟨decided, rest, hclash, hne⟩
    rcases hclash.compare_outcomes with ⟨hfold, hlower⟩ | ⟨hfold, hlower⟩
    · rw [hfold, hlower] at heq
      exact hne heq
    · rw [hfold, hlower] at heq
      exact hne heq.symm
  · intro hnot
    rcases Text.clash_or_compare_foldCase_eq a b with ⟨decided, rest, hclash⟩ | hsame
    · -- A clash that the operator does not mind.
      have hholds : operator.holds decided = operator.holds rest := by
        by_contra hne
        exact hnot ⟨decided, rest, hclash, hne⟩
      rcases hclash.compare_outcomes with ⟨hfold, hlower⟩ | ⟨hfold, hlower⟩
      · rw [hfold, hlower, hholds]
      · rw [hfold, hlower, hholds]
    · rw [hsame]

/-! ## The test of a name -/

theorem Clause.test_of_name {clause : Clause} (hfield : clause.field = .name)
    (hvalue : clause.value = .text v.lowercase) (hoperator : clause.operator ≠ .contains)
    (game : Game) :
    clause.test game = clause.operator.holds (compare game.name.lowercase v.lowercase) := by
  simp only [Clause.test, hfield, hvalue, Field.value]
  cases hop : clause.operator with
  | contains => exact absurd hop hoperator
  | _ => rfl

theorem Clause.exists_build_name (operator : Operator) (v : Text) :
    ∃ clause, Clause.build .name operator (.text v) = .ok clause ∧ clause.field = .name ∧
      clause.operator = operator ∧ clause.value = .text v.lowercase := by
  have happlies : operator.appliesTo Field.name.kind = true :=
    Operator.appliesTo_iff.2 fun _ => rfl
  exact Clause.exists_build happlies rfl

/-! ## Asking for a name -/

/-- The clause that compares the name with a text. -/
def Clause.nameText (operator : Operator) (v : Text) : Text :=
  "name ".toList ++ operator.token.toList ++ ' ' :: v

/-- The text can stand behind the operator: neither its own token nor one that is sought before it
occurs there. -/
structure Operator.Spares (operator : Operator) (v : Text) : Prop where
  once : ¬ operator.token.toList <:+: v
  first : ∀ other ∈ operator.soughtBefore, ¬ other.token.toList <:+: v

theorem Operator.blank_not_mem_token (operator : Operator) : ' ' ∉ operator.token.toList := by
  cases operator <;> decide

namespace Clause

variable {operator : Operator}

theorem leftmostCut_nameText (operator : Operator) (v : Text) :
    Text.LeftmostCut operator.token.toList (nameText operator v) "name ".toList (' ' :: v) := by
  refine Text.cut?_eq_some_iff.1 ?_
  cases operator <;> simp [nameText, Operator.token, Text.cut?]

/-- What occurs in the clause is in its token or in the text asked for. -/
theorem isInfix_nameText_iff {other : Operator} :
    other.token.toList <:+: nameText operator v ↔
      other.token.toList <:+: "name ".toList ++ operator.token.toList ∨
        other.token.toList <:+: v :=
  Text.isInfix_append_cons_iff other.blank_not_mem_token

theorem firstIn_nameText (h : operator.Spares v) : operator.FirstIn (nameText operator v) := by
  have halone : ∀ other ∈ operator.soughtBefore,
      ¬ other.token.toList <:+: "name ".toList ++ operator.token.toList := by
    cases operator <;> decide
  refine Operator.firstIn_iff.2 ⟨⟨"name ".toList, ' ' :: v, rfl⟩, ?_⟩
  intro other hother hin
  rcases isInfix_nameText_iff.1 hin with hfront | hback
  · exact halone other hother hfront
  · exact h.first other hother hback

/-- The clause has the reading that one expects. -/
theorem fits_nameText (h : operator.Spares v) (hne : v.trim ≠ []) :
    Reading.Fits ⟨operator, "name ".toList, ' ' :: v, .name, .text v.trim⟩
      (nameText operator v) := by
  have honce : ¬ operator.token.toList <:+: [] ++ ' ' :: v := by
    rw [Text.isInfix_append_cons_iff operator.blank_not_mem_token, not_or]
    refine ⟨?_, h.once⟩
    cases operator <;> decide
  have hnamed : Text.lowercase ((Text.trim "name ".toList).filter (· ≠ '_')) =
      Field.name.filterName.toList := by
    decide +kernel
  exact {
    firstIn := firstIn_nameText h
    cut := leftmostCut_nameText operator v
    once := honce
    before_ne_nil := by
      change Text.trim "name ".toList ≠ []
      decide
    after_ne_nil := hne
    named := hnamed
    valued := rfl
    applies := fun _ => rfl }

end Clause

/-! ## The filter for a name -/

namespace Filter

/-- A text that can be asked for as `name == written`: it is not blank, and neither a comma nor a
token that would be found in its place occurs in it. -/
structure Writable (written : Text) : Prop where
  trim_ne_nil : written.trim ≠ []
  no_comma : ',' ∉ written
  no_greaterEqual : ¬ Operator.greaterEqual.token.toList <:+: written
  no_lessEqual : ¬ Operator.lessEqual.token.toList <:+: written
  no_equal : ¬ Operator.equal.token.toList <:+: written

/-- The filter that asks for a name. -/
def nameFilter (written : Text) : Text :=
  "name == ".toList ++ written

theorem nameFilter_eq (written : Text) :
    nameFilter written = 'n' :: 'a' :: 'm' :: 'e' :: ' ' :: '=' :: '=' :: ' ' :: written :=
  rfl

theorem trimStart_nameFilter (written : Text) :
    (nameFilter written).trimStart = nameFilter written := by
  rw [nameFilter_eq]
  rfl

theorem trim_nameFilter (h : Writable written) :
    (nameFilter written).trim = nameFilter written.trimEnd := by
  rw [Text.trim, trimStart_nameFilter]
  exact Text.trimEnd_append _ h.trim_ne_nil

theorem trim_nameFilter_ne_nil (written : Text) : (nameFilter written).trim ≠ [] :=
  Text.trim_ne_nil_of_mem (c := 'n') (by simp [nameFilter_eq]) (by decide)

theorem Writable.spares (h : Writable written) : Operator.equal.Spares written := by
  refine ⟨h.no_equal, ?_⟩
  have hbefore : Operator.equal.soughtBefore = [.greaterEqual, .lessEqual] := by
    decide
  rw [hbefore]
  exact List.forall_mem_cons.2 ⟨h.no_greaterEqual, List.forall_mem_singleton.2 h.no_lessEqual⟩

theorem Writable.trimEnd (h : Writable written) : Writable written.trimEnd := by
  have hwithin : written.trimEnd <:+: written := (Text.trimEnd_isPrefix written).isInfix
  exact {
    trim_ne_nil := by
      rw [Text.trim_trimEnd]
      exact h.trim_ne_nil
    no_comma := fun hmem => h.no_comma (hwithin.mem hmem)
    no_greaterEqual := fun hin => h.no_greaterEqual (hin.trans hwithin)
    no_lessEqual := fun hin => h.no_lessEqual (hin.trans hwithin)
    no_equal := fun hin => h.no_equal (hin.trans hwithin) }

theorem nameFilter_eq_nameText (written : Text) :
    nameFilter written = Clause.nameText .equal written :=
  rfl

theorem parse_nameFilter (h : Writable written) :
    ∃ clause, parse (nameFilter written) = .ok [.clause clause] ∧ clause.field = .name ∧
      clause.operator = .equal ∧ clause.value = .text written.trim.lowercase := by
  -- The filter has one piece, and trimming it only takes white space from the end of the name.
  rcases (Clause.fits_nameText h.trimEnd.spares h.trimEnd.trim_ne_nil).parse with
    ⟨clause, hparse, hmakes⟩
  have hcomma : ',' ∉ nameFilter written := by
    simpa [nameFilter_eq] using h.no_comma
  rw [Text.trim_trimEnd] at hmakes
  refine ⟨clause, ?_, hmakes⟩
  rw [parse_of_not_blank (trim_nameFilter_ne_nil written), Text.pieces_of_not_mem hcomma,
    parsePieces, trim_nameFilter h, nameFilter_eq_nameText, hparse]
  rfl

end Filter

namespace Collection

/-- The name filter selects by the name in lower case. -/
theorem filter_nameFilter_eq (collection : Collection) (h : Filter.Writable written) :
    collection.filter (Filter.nameFilter written) =
      .ok (collection.games.filter (·.name.lowercase = written.trim.lowercase)) := by
  rcases Filter.parse_nameFilter h with ⟨clause, hparse, hfield, hoperator, hvalue⟩
  refine filter_eq_ok_iff.2 ⟨_, hparse, ?_⟩
  refine List.filter_congr ?_
  intro game _
  have htest := Clause.test_of_name hfield hvalue (by simp [hoperator]) game
  rw [hoperator] at htest
  have heq : Operator.equal.holds (compare game.name.lowercase written.trim.lowercase) =
      decide (game.name.lowercase = written.trim.lowercase) := by
    rw [Bool.eq_iff_iff]
    simp [Operator.holds]
  simp [Filter.accepts, Predicate.test, htest, heq]

/-- Of the games of a collection the name filter selects those whose test passes. -/
theorem filter_nameFilter (collection : Collection) (h : Filter.Writable written) :
    ∃ selected, collection.filter (Filter.nameFilter written) = .ok selected ∧
      ∀ game ∈ collection.games, (game ∈ selected ↔
        Operator.equal.holds (compare game.name.lowercase written.trim.lowercase) = true) := by
  refine ⟨_, filter_nameFilter_eq collection h, ?_⟩
  intro game hgame
  simp [hgame, Operator.holds]

/-- The test of a name is the operator's verdict on the comparison by which names are looked up and
sorted, except for texts that clash at a sigma which the operator minds; one of these has a capital
sigma at the end of a word.  So the filter `name == X` selects a game exactly when it goes by the
name `X`, and when a sort by name ties it with `X`, except where equality minds a clash. -/
theorem name_test_eq_holds_iff (game : Game) (v : Text) (operator : Operator)
    (hoperator : operator ≠ .contains) :
    (∃ clause, Clause.build .name operator (.text v) = .ok clause ∧
      (clause.test game = operator.holds (game.name.compareIgnoringCase v) ↔
        ¬ operator.SigmaSensitive game.name v)) ∧
    (operator.SigmaSensitive game.name v → game.name.HasFinalSigma ∨ v.HasFinalSigma) ∧
    (∀ (collection : Collection) (written : Text), game ∈ collection.games →
      Filter.Writable written → written.trim = v →
        ∃ selected, collection.filter (Filter.nameFilter written) = .ok selected ∧
          ((game ∈ selected ↔ Plan.isNamed v game = true) ↔
            ¬ Operator.equal.SigmaSensitive game.name v)) ∧
    (∀ (direction : Direction) (other : Game), other.name = v →
      (Order.compare ⟨.name, direction⟩ game other = .eq ↔ Plan.isNamed v game = true)) := by
  refine ⟨?_, Operator.SigmaSensitive.hasFinalSigma, ?_, ?_⟩
  · rcases Clause.exists_build_name operator v with ⟨clause, hbuild, hfield, rfl, hvalue⟩
    refine ⟨clause, hbuild, ?_⟩
    rw [Clause.test_of_name hfield hvalue hoperator, Operator.holds_compare_eq_iff]
  · rintro collection written hgame hwritten rfl
    rcases filter_nameFilter collection hwritten with ⟨selected, hfilter, hselected⟩
    refine ⟨selected, hfilter, ?_⟩
    -- Going by a name is what equality makes of the comparison.
    have hnamed : Plan.isNamed written.trim game =
        Operator.equal.holds (game.name.compareIgnoringCase written.trim) := rfl
    rw [hselected game hgame, hnamed, ← Bool.eq_iff_iff, Operator.holds_compare_eq_iff]
  · rintro direction other rfl
    cases direction with
    | ascending =>
        simp [Order.compare, Direction.apply, Field.value, Value.compare, Plan.isNamed,
          Text.sameIgnoringCase]
    | descending =>
        simp [Order.compare, Direction.apply, Field.value, Value.compare, Plan.isNamed,
          Text.sameIgnoringCase]

/-- The small letters of a name may end in either sigma.  Here the final one is asked for, so the
test passes, and the game is not looked up. -/
theorem name_test_capital_sigma :
    let street : Game := ⟨"ΟΔΟΣ".toList, 1, 2, 4, 30, 60, ⟨0⟩, 1, ⟨0⟩, 2000⟩
    let v : Text := "οδος".toList
    (∃ clause, Clause.build .name .equal (.text v) = .ok clause ∧
      clause.test street ≠ Operator.equal.holds (street.name.compareIgnoringCase v)) ∧
    ∃ selected, (ofList [street]).filter (Filter.nameFilter v) = .ok selected ∧
      ¬ (street ∈ selected ↔ Plan.isNamed v street = true) := by
  intro street v
  -- The last letters are `σ` and `ς` in the one form, and both `ς` in the other.
  have hclash : Operator.equal.SigmaSensitive street.name v := by
    refine ⟨.gt, .eq, ?_, by decide⟩
    have hname : street.name.casePairs =
        [('ο', 'ο'), ('δ', 'δ'), ('ο', 'ο')] ++ ('σ', 'ς') :: [] := by
      decide +kernel
    have hv : v.casePairs = [('ο', 'ο'), ('δ', 'δ'), ('ο', 'ο')] ++ ('ς', 'ς') :: [] := by
      decide +kernel
    rw [hname, hv]
    exact .final _ [] []
  have hwritten : Filter.Writable v := by
    refine ⟨?_, ?_, ?_, ?_, ?_⟩ <;> decide
  rcases name_test_eq_holds_iff street v .equal (by decide) with
    ⟨⟨clause, hbuild, htest⟩, -, hfilter, -⟩
  refine ⟨⟨clause, hbuild, ?_⟩, ?_⟩
  · intro heq
    exact htest.1 heq hclash
  · rcases hfilter (ofList [street]) v (by decide +kernel) hwritten (by decide) with
      ⟨selected, hselected, hiff⟩
    refine ⟨selected, hselected, ?_⟩
    intro hagree
    exact hiff.1 hagree hclash

/-- The test does not always follow the comparison by which names are looked up. -/
theorem name_test_not_always_holds :
    ¬ ∀ (game : Game) (v : Text) (operator : Operator), operator ≠ .contains →
      ∃ clause, Clause.build .name operator (.text v) = .ok clause ∧
        clause.test game = operator.holds (game.name.compareIgnoringCase v) := by
  intro h
  rcases h ⟨"ΟΔΟΣ".toList, 1, 2, 4, 30, 60, ⟨0⟩, 1, ⟨0⟩, 2000⟩ "οδοσ".toList .equal
      (by decide) with ⟨clause, hbuild, htest⟩
  rcases Clause.build_eq_ok_iff.1 hbuild with ⟨-, -, hfield, hoperator, hvalue⟩
  rw [Clause.test_of_name hfield hvalue (by simp [hoperator]), hoperator] at htest
  revert htest
  decide +kernel

end Collection

end GameShelf
