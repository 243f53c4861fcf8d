import GameShelf.Proofs.Text.FinalSigma
import Mathlib.Data.List.TakeWhile

/-!
# The lowercase of a part of a text

A part of a text has two lowercase forms: the one it has alone, and the one it has in its place,
where a capital sigma also sees what stands in front of the part and behind it.

* `lowercaseWithin before t after` is the second form, and the lowercase of a whole text is made of
  the forms that its parts have in their places (`lowercaseAfter_append`).
* The two forms differ at most at the two margins of the part, because a letter between a sigma and
  the margin hides what is beyond it.  `lowercaseWithin_eq_lowercase_iff` says when they do: its
  first letter is a sigma that ends a word begun in front of it, or its last letter is a sigma that
  ends its last word, which goes on behind it.
-/

set_option autoImplicit false

namespace GameShelf.Text

variable {before before' t after after' : Text} {c : Char}

/-! ## What a sigma sees -/

/-- A capital sigma between the two texts ends a word; the first text has its nearest character
first. -/
def endsWord (before after : Text) : Bool :=
  startsCased before && !startsCased after

theorem lowerCharWithin_sigma (before after : Text) :
    lowerCharWithin before 'Σ' after = if endsWord before after then ['ς'] else ['σ'] :=
  rfl

theorem lowerCharWithin_eq_iff :
    lowerCharWithin before c after = lowerCharWithin before' c after' ↔
      (c = 'Σ' → endsWord before after = endsWord before' after') := by
  by_cases hc : c = 'Σ'
  · subst hc
    rw [lowerCharWithin_sigma, lowerCharWithin_sigma]
    cases endsWord before after <;> cases endsWord before' after' <;> decide
  · simp [lowerCharWithin, hc]

/-- There is nothing in the text but characters that are passed over. -/
def Ignorable (t : Text) : Prop :=
  ∀ c ∈ t, isCaseIgnorable c = true

theorem Ignorable.startsCased_append (h : Ignorable t) (after : Text) :
    startsCased (t ++ after) = startsCased after := by
  rw [startsCased, startsCased, List.dropWhile_append_of_pos h]

theorem Ignorable.startsCased (h : Ignorable t) : startsCased t = false := by
  have happend := h.startsCased_append []
  rwa [List.append_nil] at happend

/-- A character that is not passed over hides what comes after it. -/
theorem startsCased_append_of_not_ignorable (h : ¬ Ignorable t) (after : Text) :
    startsCased (t ++ after) = startsCased t := by
  have hdrop : t.dropWhile isCaseIgnorable ≠ [] := by
    rwa [ne_eq, List.dropWhile_eq_nil_iff]
  rcases List.exists_cons_of_ne_nil hdrop with ⟨c, rest, hcons⟩
  rw [startsCased, startsCased, List.dropWhile_append, hcons]
  rfl

theorem ignorable_reverse_iff : Ignorable t.reverse ↔ Ignorable t := by
  simp [Ignorable]

/-- A sigma with `before` and `after` next to it sees further only over characters that are passed
over.  So what is further off makes a difference in two cases: it begins the word that the sigma
ends, or it continues the word that the sigma would end. -/
theorem endsWord_append_ne_iff (before after further beyond : Text) :
    endsWord (before ++ further) (after ++ beyond) ≠ endsWord before after ↔
      (Ignorable before ∧ endsWord further (after ++ beyond) = true) ∨
      (endsWord before after = true ∧ Ignorable after ∧ startsCased beyond = true) := by
  by_cases hbefore : Ignorable before
  · -- Nothing in `before` counts, so alone the sigma ends no word.
    simp [endsWord, hbefore.startsCased_append, hbefore.startsCased, hbefore]
  · -- What is further in front is hidden; what is beyond counts if `after` lets it through.
    by_cases hafter : Ignorable after
    · simp [endsWord, startsCased_append_of_not_ignorable hbefore, hbefore,
        hafter.startsCased_append, hafter.startsCased, hafter]
    · simp [endsWord, startsCased_append_of_not_ignorable hbefore, hbefore,
        startsCased_append_of_not_ignorable hafter, hafter]

/-! ## A part in its place -/

/-- The lowercase of `t` with `before`, nearest character first, in front of it and `after`
behind it. -/
def lowercaseWithin (before : Text) : Text → Text → Text
  | [], _ => []
  | c :: rest, after =>
    lowerCharWithin before c (rest ++ after) ++ lowercaseWithin (c :: before) rest after

/-- The lowercase of a text is put together from its parts in their places. -/
theorem lowercaseAfter_append (before t after : Text) :
    lowercaseAfter before (t ++ after) =
      lowercaseWithin before t after ++ lowercaseAfter (t.reverse ++ before) after := by
  induction t generalizing before with
  | nil => rfl
  | cons c rest ih =>
      simp [lowercaseAfter, lowercaseWithin, ih]

theorem lowercaseWithin_nil_nil (t : Text) : lowercaseWithin [] t [] = t.lowercase := by
  have happend := lowercaseAfter_append [] t []
  rw [List.append_nil, lowercaseAfter, List.append_nil] at happend
  exact happend.symm

theorem length_lowercaseWithin (before t after : Text) :
    (lowercaseWithin before t after).length = t.foldCase.length := by
  induction t generalizing before with
  | nil => rfl
  | cons c rest ih =>
      simp [lowercaseWithin, foldCase, ih, length_lowerCharWithin]

/-- The lowercase of a text around a part of it. -/
theorem lowercase_append_append (before t after : Text) :
    (before ++ t ++ after).lowercase =
      lowercaseWithin [] before (t ++ after) ++ lowercaseWithin before.reverse t after ++
        lowercaseAfter (t.reverse ++ before.reverse) after := by
  rw [lowercase, List.append_assoc, lowercaseAfter_append, lowercaseAfter_append, List.append_nil,
    List.append_assoc]

/-- Two places give a part the same form when each of its sigmas ends a word in both or in
neither. -/
theorem lowercaseWithin_eq_iff :
    lowercaseWithin before t after = lowercaseWithin before' t after' ↔
      ∀ front back, t = front ++ 'Σ' :: back →
        endsWord (front.reverse ++ before) (back ++ after) =
          endsWord (front.reverse ++ before') (back ++ after') := by
  induction t generalizing before before' with
  | nil => simp [lowercaseWithin]
  | cons c rest ih =>
      have hlength : (lowerCharWithin before c (rest ++ after)).length =
          (lowerCharWithin before' c (rest ++ after')).length := by
        rw [length_lowerCharWithin, length_lowerCharWithin]
      -- The sigma is the first character or one of the others.
      constructor
      · intro heq front back hsigma
        rcases List.append_inj heq hlength with ⟨hfirst, hrest⟩
        cases front with
        | nil =>
            cases hsigma
            exact lowerCharWithin_eq_iff.1 hfirst rfl
        | cons d front =>
            cases hsigma
            simpa using ih.1 hrest front back rfl
      · intro hall
        have hfirst : lowerCharWithin before c (rest ++ after) =
            lowerCharWithin before' c (rest ++ after') := by
          refine lowerCharWithin_eq_iff.2 ?_
          rintro rfl
          exact hall [] rest rfl
        have hrest : lowercaseWithin (c :: before) rest after =
            lowercaseWithin (c :: before') rest after' := by
          refine ih.2 ?_
          rintro front back rfl
          simpa using hall (c :: front) back rfl
        rw [lowercaseWithin, lowercaseWithin, hfirst, hrest]

/-! ## The margins of a part -/

/-- The first letter of the part is a capital sigma, and it ends a word that was begun in front of
the part. -/
def OpensWithFinalSigma (before t after : Text) : Prop :=
  ∃ front back, t = front ++ 'Σ' :: back ∧ Ignorable front ∧
    endsWord before.reverse (back ++ after) = true

/-- The last letter of the part is a capital sigma that ends a word of it, and the word goes on
behind the part. -/
def ClosesInsideWord (t after : Text) : Prop :=
  ∃ front back, t = front ++ 'Σ' :: back ∧ endsWord front.reverse back = true ∧
    Ignorable back ∧ startsCased after = true

theorem OpensWithFinalSigma.sigma_mem (h : OpensWithFinalSigma before t after) : 'Σ' ∈ t := by
  rcases h with ⟨front, back, rfl, -⟩
  simp

theorem ClosesInsideWord.sigma_mem (h : ClosesInsideWord t after) : 'Σ' ∈ t := by
  rcases h with ⟨front, back, rfl, -⟩
  simp

/-- A part has the same lowercase in its place as alone, unless a sigma at one of its margins
belongs to a word that is not wholly within the part. -/
theorem lowercaseWithin_eq_lowercase_iff (before t after : Text) :
    lowercaseWithin before.reverse t after = t.lowercase ↔
      ¬ OpensWithFinalSigma before t after ∧ ¬ ClosesInsideWord t after := by
  rw [← lowercaseWithin_nil_nil t, lowercaseWithin_eq_iff]
  simp only [List.append_nil]
  constructor
  · intro hsame
    refine ⟨?_, ?_⟩
    · rintro ⟨front, back, rfl, hfront, hword⟩
      refine (endsWord_append_ne_iff _ _ _ _).2 (Or.inl ⟨?_, hword⟩) (hsame front back rfl)
      exact ignorable_reverse_iff.2 hfront
    · rintro ⟨front, back, rfl, hword, hback, hafter⟩
      exact (endsWord_append_ne_iff _ _ _ _).2 (Or.inr ⟨hword, hback, hafter⟩)
        (hsame front back rfl)
  · rintro ⟨hopens, hcloses⟩ front back rfl
    by_contra hne
    rcases (endsWord_append_ne_iff _ _ _ _).1 hne with ⟨hfront, hword⟩ | ⟨hword, hback, hafter⟩
    · exact hopens ⟨front, back, rfl, ignorable_reverse_iff.1 hfront, hword⟩
    · exact hcloses ⟨front, back, rfl, hword, hback, hafter⟩

end GameShelf.Text
