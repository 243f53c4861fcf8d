import GameShelf.Proofs.Filter.NameTest
import GameShelf.Proofs.Text.Search
import GameShelf.Proofs.Text.Within

/-!
# Searching names for a part of them

A clause with `~=` lowers the whole name and the whole pattern and searches the one for the other.
A part of a name is found this way wherever its lowercase is what it is in its place in the name.
That fails for a part with a capital sigma at one of its margins, if the word of the sigma reaches
over the margin: the pattern `ΟΔΥΣ` ends in `ς`, and in the name `ΟΔΥΣΣΕΙΑ` the same letter is a
`σ`.  Such a part is found only if its own lowercase happens to stand somewhere else in the name.
-/

set_option autoImplicit false

namespace GameShelf

open Text (OpensWithFinalSigma ClosesInsideWord)

variable {before part after : Text}

/-- The part's own lowercase stands in the lowercase of the name at the place of the part. -/
theorem Text.lowercase_at_place_iff :
    (∃ front back : Text, (before ++ part ++ after).lowercase = front ++ part.lowercase ++ back ∧
        front.length = before.foldCase.length) ↔
      ¬ OpensWithFinalSigma before part after ∧ ¬ ClosesInsideWord part after := by
  rw [← Text.lowercaseWithin_eq_lowercase_iff, Text.lowercase_append_append]
  constructor
  · rintro ⟨front, back, heq, hfront⟩
    have hplace : (Text.lowercaseWithin [] before (part ++ after)).length = front.length := by
      rw [hfront, Text.length_lowercaseWithin]
    have hwidth : (Text.lowercaseWithin before.reverse part after).length =
        part.lowercase.length := by
      rw [← Text.lowercaseWithin_nil_nil, Text.length_lowercaseWithin,
        Text.length_lowercaseWithin]
    rw [List.append_assoc, List.append_assoc] at heq
    exact (List.append_inj (List.append_inj heq hplace).2 hwidth).1
  · intro hsame
    refine ⟨Text.lowercaseWithin [] before (part ++ after),
      Text.lowercaseAfter (part.reverse ++ before.reverse) after, ?_,
      Text.length_lowercaseWithin [] before (part ++ after)⟩
    rw [hsame]

namespace Clause

variable {game : Game}

theorem test_of_contains {clause : Clause} {pattern : Text} (hfield : clause.field = .name)
    (hoperator : clause.operator = .contains) (hvalue : clause.value = .text pattern.lowercase) :
    clause.test game = true ↔ pattern.lowercase <:+: game.name.lowercase := by
  simp only [test, hfield, hvalue, hoperator, Field.value, textMatches]
  exact Text.includes_iff_isInfix

/-- A part of a name is found in it if neither of its margins cuts through a word that ends there
in a capital sigma, and else only if its lowercase stands at another place of the lowercase of the
name.  In particular every part without a capital sigma is found. -/
theorem test_contains_part_iff (game : Game) (before part after : Text)
    (hname : game.name = before ++ part ++ after) :
    ∃ clause, build .name .contains (.text part) = .ok clause ∧
      (clause.test game = true ↔
        (¬ OpensWithFinalSigma before part after ∧ ¬ ClosesInsideWord part after) ∨
        ∃ front back : Text, game.name.lowercase = front ++ part.lowercase ++ back ∧
          front.length ≠ before.foldCase.length) ∧
      ('Σ' ∉ part → clause.test game = true) := by
  rcases exists_build_name .contains part with ⟨clause, hbuild, hfield, hoperator, hvalue⟩
  have htest : clause.test game = true ↔
      (¬ OpensWithFinalSigma before part after ∧ ¬ ClosesInsideWord part after) ∨
      ∃ front back : Text, game.name.lowercase = front ++ part.lowercase ++ back ∧
        front.length ≠ before.foldCase.length := by
    rw [test_of_contains hfield hoperator hvalue, ← Text.lowercase_at_place_iff, hname]
    -- An occurrence is at the place of the part or at another one.
    constructor
    · rintro ⟨front, back, heq⟩
      by_cases hplace : front.length = before.foldCase.length
      · exact Or.inl ⟨front, back, heq.symm, hplace⟩
      · exact Or.inr ⟨front, back, heq.symm, hplace⟩
    · rintro (⟨front, back, heq, -⟩ | ⟨front, back, heq, -⟩)
      · exact ⟨front, back, heq.symm⟩
      · exact ⟨front, back, heq.symm⟩
  refine ⟨clause, hbuild, htest, ?_⟩
  intro hsigma
  refine htest.2 (Or.inl ⟨?_, ?_⟩)
  · exact fun hopens => hsigma hopens.sigma_mem
  · exact fun hcloses => hsigma hcloses.sigma_mem

/-- The first word of the name begins as the second one is, but its sigma is not a final one, so
that only the second word is found. -/
theorem test_contains_part_iff_second_word :
    let game : Game := ⟨"ΜΑΣΑΛΑ ΜΑΣ".toList, 1, 2, 4, 30, 60, ⟨0⟩, 1, ⟨0⟩, 2000⟩
    game.name = [] ++ "ΜΑΣ".toList ++ "ΑΛΑ ΜΑΣ".toList ∧
      ClosesInsideWord "ΜΑΣ".toList "ΑΛΑ ΜΑΣ".toList ∧
      ∃ clause, build .name .contains (.text "ΜΑΣ".toList) = .ok clause ∧
        clause.test game = true := by
  intro game
  have hname : game.name = [] ++ "ΜΑΣ".toList ++ "ΑΛΑ ΜΑΣ".toList := by decide
  have hcloses : ClosesInsideWord "ΜΑΣ".toList "ΑΛΑ ΜΑΣ".toList :=
    ⟨"ΜΑ".toList, [], by decide, by decide +kernel, by simp [Text.Ignorable], by decide +kernel⟩
  rcases test_contains_part_iff game [] "ΜΑΣ".toList "ΑΛΑ ΜΑΣ".toList hname with
    ⟨clause, hbuild, htest, -⟩
  refine ⟨hname, hcloses, clause, hbuild, htest.2 (Or.inr ?_)⟩
  exact ⟨"μασαλα ".toList, [], by decide +kernel, by decide⟩

/-- A part of a name is not always found in it. -/
theorem test_contains_part_not_always :
    ¬ ∀ (game : Game) (before part after : Text), game.name = before ++ part ++ after →
      part ≠ [] → ∃ clause, build .name .contains (.text part) = .ok clause ∧
        clause.test game = true := by
  intro h
  rcases h ⟨"ΟΔΥΣΣΕΙΑ".toList, 1, 2, 4, 30, 60, ⟨0⟩, 1, ⟨0⟩, 2000⟩ [] "ΟΔΥΣ".toList
      "ΣΕΙΑ".toList (by decide) (by decide) with ⟨clause, hbuild, htest⟩
  rcases build_eq_ok_iff.1 hbuild with ⟨-, -, hfield, hoperator, hvalue⟩
  have hfound := (test_of_contains hfield hoperator hvalue).1 htest
  revert hfound
  decide +kernel

end Clause
end GameShelf
