import GameShelf.Proofs.Plan.ByName
import GameShelf.Proofs.Plan.Runs

/-!
# What a removal takes away

Removing looks for `all` first, then for a game of that name, and then for positions.  Positions are
those of the plan itself, and what they resolve to is never empty; so the check for an empty stretch,
which removal makes before it erases one, always passes.  Whatever is taken away, the other games
stay in their order.
-/

set_option autoImplicit false

namespace GameShelf.Plan

variable {plan : Plan} {text : Text} {span : Selector.Span} {e : Error}

/-! ## The four ways of a removal -/

theorem Unnamed.findIdx? {games : List Game} {name : Text} (h : Unnamed name games) :
    games.findIdx? (isNamed name) = none :=
  List.findIdx?_eq_none_iff.2 h

/-- The stretch that positions resolve to is erased, for it is not empty. -/
theorem remove_of_resolve (hall : text.trim.sameIgnoringAsciiCase "all".toList = false)
    (hname : Unnamed text.trim plan.games)
    (h : (Selector.parse text.trim).resolve plan.size = .ok (some span)) :
    plan.remove text = .ok (plan.erase span) := by
  simp only [remove, parse_trim_ne_all hall, ↓reduceIte, hname.findIdx?, h,
    Selector.isEmpty_of_resolve h, Bool.false_eq_true]

theorem remove_of_resolve_none (hall : text.trim.sameIgnoringAsciiCase "all".toList = false)
    (hname : Unnamed text.trim plan.games)
    (h : (Selector.parse text.trim).resolve plan.size = .ok none) :
    plan.remove text = .error (.unknownGame text.trim) := by
  simp only [remove, parse_trim_ne_all hall, ↓reduceIte, hname.findIdx?, h]

theorem remove_of_resolve_error (hall : text.trim.sameIgnoringAsciiCase "all".toList = false)
    (hname : Unnamed text.trim plan.games)
    (h : (Selector.parse text.trim).resolve plan.size = .error e) :
    plan.remove text = .error e := by
  simp only [remove, parse_trim_ne_all hall, ↓reduceIte, hname.findIdx?, h]

/-- What is neither `all` nor a name and stands for no positions of the plan is refused. -/
theorem remove_of_not_resolve (hall : text.trim.sameIgnoringAsciiCase "all".toList = false)
    (hname : Unnamed text.trim plan.games)
    (h : ∀ span, (Selector.parse text.trim).resolve plan.size ≠ .ok (some span)) :
    ∃ e, plan.remove text = .error e ∧
      ((Selector.parse text.trim).IsPositional →
        (Selector.parse text.trim).resolve plan.size = .error e) ∧
      (¬ (Selector.parse text.trim).IsPositional → e = .unknownGame text.trim) := by
  by_cases hpositional : (Selector.parse text.trim).IsPositional
  · rcases Selector.resolve_cases_of_isPositional hpositional plan.size with
      ⟨span, hspan, -⟩ | ⟨e, he, -⟩
    · exact absurd hspan (h span)
    · exact ⟨e, remove_of_resolve_error hall hname he, fun _ => he,
        fun hnot => absurd hpositional hnot⟩
  · have hnone := Selector.resolve_of_not_isPositional hpositional plan.size
    exact ⟨_, remove_of_resolve_none hall hname hnone, fun hyes => absurd hyes hpositional,
      fun _ => rfl⟩

/-- Wherever a removal comes to the check for an empty stretch, the check passes. -/
theorem remove_ne_nothingToRemove (plan : Plan) (text : Text) :
    plan.remove text ≠ .error .nothingToRemove := by
  intro hremove
  cases hall : text.trim.sameIgnoringAsciiCase "all".toList with
  | true =>
      rw [remove_of_all hall] at hremove
      cases hremove
  | false =>
      rcases unnamed_or_exists_firstNamed text.trim plan.games with hname | ⟨_, _, _, hfirst⟩
      · cases hresolve : (Selector.parse text.trim).resolve plan.size with
        | error e =>
            rw [remove_of_resolve_error hall hname hresolve] at hremove
            cases hremove
            -- Resolving has errors of its own.
            rcases Selector.error_of_resolve hresolve with ⟨_, he⟩ | ⟨_, _, he, -⟩
            · cases he
            · cases he
        | ok resolved =>
            cases resolved with
            | none =>
                rw [remove_of_resolve_none hall hname hresolve] at hremove
                cases hremove
            | some span =>
                rw [remove_of_resolve hall hname hresolve] at hremove
                cases hremove
      · rw [remove_of_firstNamed_trim hall hfirst] at hremove
        cases hremove

/-! ## What is left -/

theorem erase_eq (hresolve : (Selector.parse text.trim).resolve plan.size = .ok (some span)) :
    plan.erase span =
      ⟨⟨(plan.games.zipIdx.filter fun placed => !span.holds placed.2).map Prod.fst⟩,
        span.last - span.first + 1⟩ := by
  have hbounds := Selector.resolve_bounds hresolve
  have hcount : span.last + 1 - span.first = span.last - span.first + 1 := by omega
  rw [erase, Selector.Span.erase_eq_filter hbounds.1 hbounds.2,
    Selector.Span.length_slice hbounds.2, hcount]

theorem sublist_step_remove (plan : Plan) (text : Text) :
    (plan.step (.remove text)).games.Sublist plan.games := by
  cases hchange : Step.change plan (.remove text) with
  | error e =>
      rw [step_of_error hchange]
  | ok change =>
      rw [step_of_ok hchange]
      exact (sublist_and_count_of_remove hchange).1

/-- A removal by `all` empties the plan.  Else a name takes the first game of that name, and then an
index or a range that resolves takes the games at the positions meant, at least one.  Any other
removal fails and leaves the plan as it was: with the error of an index or a range that does not
resolve, and with an invalid argument for any other text.  In every case the games that are left
keep their order, and never is there nothing to remove. -/
theorem outcome_remove (plan : Plan) (text : Text) :
    (text.trim.sameIgnoringAsciiCase "all".toList = true →
      plan.outcome (.remove text) = (empty, .ok plan.size)) ∧
    (text.trim.sameIgnoringAsciiCase "all".toList = false →
      (∀ before first after, FirstNamed text.trim before first after plan.games →
        plan.outcome (.remove text) = (⟨before ++ after⟩, .ok 1)) ∧
      (Unnamed text.trim plan.games →
        (∀ span, (Selector.parse text.trim).resolve plan.size = .ok (some span) →
          span.first ≤ span.last ∧ span.last < plan.size ∧
          plan.outcome (.remove text) =
            (⟨(plan.games.zipIdx.filter fun placed => !span.holds placed.2).map Prod.fst⟩,
              .ok (span.last - span.first + 1))) ∧
        ((∀ span, (Selector.parse text.trim).resolve plan.size ≠ .ok (some span)) →
          ∃ e, plan.outcome (.remove text) = (plan, .error e) ∧
            ((Selector.parse text.trim).IsPositional →
              (Selector.parse text.trim).resolve plan.size = .error e) ∧
            (¬ (Selector.parse text.trim).IsPositional →
              e = .unknownGame text.trim ∧ e.category = .invalidArgument)))) ∧
    (plan.step (.remove text)).games.Sublist plan.games ∧
    plan.remove text ≠ .error .nothingToRemove := by
  refine ⟨?_, ?_, sublist_step_remove plan text, remove_ne_nothingToRemove plan text⟩
  · intro hall
    exact outcome_of_ok (s := .remove text) (remove_of_all hall)
  · intro hall
    refine ⟨?_, ?_⟩
    · intro before first after hfirst
      exact outcome_of_ok (s := .remove text) (remove_of_firstNamed_trim hall hfirst)
    · intro hname
      refine ⟨?_, ?_⟩
      · intro span hresolve
        have hbounds := Selector.resolve_bounds hresolve
        have hremove := remove_of_resolve hall hname hresolve
        rw [erase_eq hresolve] at hremove
        exact ⟨hbounds.1, hbounds.2, outcome_of_ok (s := .remove text) hremove⟩
      · intro hnone
        rcases remove_of_not_resolve hall hname hnone with ⟨e, hremove, hpositional, htext⟩
        refine ⟨e, outcome_of_error (s := .remove text) hremove, hpositional, ?_⟩
        intro hnot
        rw [htext hnot]
        exact ⟨rfl, rfl⟩

/-- A text with digits that is a name, a range beyond the plan and a position beyond it. -/
theorem outcome_remove_positions :
    let go : Game := ⟨"Go".toList, 1, 2, 2, 30, 180, ⟨0⟩, 23, ⟨0⟩, -2200⟩
    let three : Game := ⟨"3".toList, 2, 2, 2, 20, 60, .quietNaN false, 90, ⟨0⟩, 1942⟩
    let chess : Game := ⟨"Chess".toList, 3, 2, 2, 10, 60, ⟨0⟩, 7, ⟨0⟩, 1475⟩
    let plan : Plan := ⟨[go, three, chess]⟩
    plan.outcome (.remove " 3".toList) = (⟨[go, chess]⟩, .ok 1) ∧
      plan.outcome (.remove "2-9".toList) = (⟨[go]⟩, .ok 2) ∧
      plan.outcome (.remove "4".toList) = (plan, .error (.outOfRange 4 3)) ∧
      plan.outcome (.remove "ALL".toList) = (empty, .ok 3) := by
  intro go three chess plan
  have hname : FirstNamed (Text.trim " 3".toList) [go] three [chess] plan.games :=
    ⟨rfl, by decide +kernel, by decide +kernel⟩
  have hrange : Selector.parse (Text.trim "2-9".toList) = .range 2 9 := by decide +kernel
  have hindex : Selector.parse (Text.trim "4".toList) = .index 4 := by decide +kernel
  rcases ((outcome_remove plan "2-9".toList).2.1 (by decide)).2 (by decide +kernel) with
    ⟨hresolve, -⟩
  rcases ((outcome_remove plan "4".toList).2.1 (by decide)).2 (by decide +kernel) with ⟨-, hfail⟩
  rw [hrange] at hresolve
  rw [hindex] at hfail
  refine ⟨?_, (hresolve ⟨1, 2⟩ rfl).2.2, ?_, (outcome_remove plan "ALL".toList).1 (by decide)⟩
  · exact ((outcome_remove plan " 3".toList).2.1 (by decide)).1 [go] three [chess] hname
  · have hnone : ∀ span, (Selector.index 4).resolve plan.size ≠ .ok (some span) := by
      intro span h
      cases h
    rcases hfail hnone with ⟨e, houtcome, hpositional, -⟩
    have he : Except.error (.outOfRange 4 3) = Except.error e := hpositional trivial
    cases he
    exact houtcome

end GameShelf.Plan
