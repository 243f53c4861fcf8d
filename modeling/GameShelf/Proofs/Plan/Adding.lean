import GameShelf.Proofs.Plan.ByName
import GameShelf.Proofs.Plan.Runs

/-!
# What an addition adds

A text asks for games of a view: the first one of that name, else for `all` the whole view, else for
an index or a range the stretch that it resolves to.  `Asks` says so, rule by rule, and an addition
follows it: it appends those of the games that are new, and fails where nothing is asked for.  What
was appended is no longer new, so the same addition once more does nothing.
-/

set_option autoImplicit false

namespace GameShelf

namespace Plan

variable {plan : Plan} {text t : Text} {view games : List Game}

/-! ## What a text asks for -/

/-- The games of the view that the trimmed text asks for. -/
inductive Asks (view : List Game) (t : Text) : List Game → Prop where
  /-- The first game of that name. -/
  | name {before after : List Game} {first : Game} (h : FirstNamed t before first after view) :
      Asks view t [first]
  /-- The whole view, if it has no game of that name. -/
  | all (hname : Unnamed t view) (hall : t.sameIgnoringAsciiCase "all".toList = true) :
      Asks view t view
  /-- The games at the positions meant, if there is no game of that name. -/
  | positions {span : Selector.Span} (hname : Unnamed t view)
      (hpositional : (Selector.parse t).IsPositional)
      (hresolve : (Selector.parse t).resolve view.length = .ok (some span)) :
      Asks view t (span.slice view)

theorem chosen_of_parse_all (h : Unnamed text.trim view)
    (hparse : Selector.parse text.trim = .all) : chosen text view = .ok view := by
  simp only [chosen, find?_isNamed_eq_none_iff.2 h, hparse]

theorem chosen_of_parse_text (h : Unnamed text.trim view)
    (hparse : Selector.parse text.trim = .text t) :
    chosen text view = .error (.unknownSelector t) := by
  simp only [chosen, find?_isNamed_eq_none_iff.2 h, hparse]

theorem chosen_of_positional (h : Unnamed text.trim view)
    (hpositional : (Selector.parse text.trim).IsPositional) :
    chosen text view = ((Selector.parse text.trim).resolve view.length).map
      fun span => span.elim [] (·.slice view) := by
  cases hparse : Selector.parse text.trim with
  | all =>
      rw [hparse] at hpositional
      exact absurd hpositional id
  | text t =>
      rw [hparse] at hpositional
      exact absurd hpositional id
  | index position => simp only [chosen, find?_isNamed_eq_none_iff.2 h, hparse]
  | range start stop => simp only [chosen, find?_isNamed_eq_none_iff.2 h, hparse]

/-- What is asked for is chosen. -/
theorem chosen_of_asks (h : Asks view text.trim games) : chosen text view = .ok games := by
  cases h with
  | name h =>
      rw [chosen, find?_isNamed_eq_some_iff.2 ⟨_, _, h⟩]
  | all hname hall =>
      refine chosen_of_parse_all hname ?_
      rwa [Selector.parse_eq_all_iff, Text.trim_trim]
  | positions hname hpositional hresolve =>
      rw [chosen_of_positional hname hpositional, hresolve]
      rfl

/-- Where nothing is asked for, positions fail as they resolve, and all else is no selector. -/
theorem chosen_of_not_asks (h : ∀ games, ¬ Asks view text.trim games) :
    ∃ e, chosen text view = .error e ∧
      ((Selector.parse text.trim).IsPositional →
        (Selector.parse text.trim).resolve view.length = .error e) ∧
      (¬ (Selector.parse text.trim).IsPositional → e = .unknownSelector text.trim) := by
  rcases unnamed_or_exists_firstNamed text.trim view with hname | ⟨before, first, after, hfirst⟩
  · by_cases hpositional : (Selector.parse text.trim).IsPositional
    · rcases Selector.resolve_cases_of_isPositional hpositional view.length with
        ⟨span, hspan, -⟩ | ⟨e, he, -⟩
      · exact absurd (.positions hname hpositional hspan) (h _)
      · refine ⟨e, ?_, fun _ => he, fun hnot => absurd hpositional hnot⟩
        rw [chosen_of_positional hname hpositional, he]
        rfl
    · -- The text is read as a name, and the view has no game of that name.
      have hall : Selector.parse text.trim ≠ .all := by
        intro hall
        rw [Selector.parse_eq_all_iff, Text.trim_trim] at hall
        exact h view (.all hname hall)
      have hparse := Selector.parse_eq_text hall hpositional
      rw [Text.trim_trim] at hparse
      exact ⟨.unknownSelector text.trim, chosen_of_parse_text hname hparse,
        fun hyes => absurd hyes hpositional, fun _ => rfl⟩
  · exact absurd (.name hfirst) (h _)

/-! ## Adding what is asked for -/

/-- Two lists of games can be appended at once or in turns. -/
theorem append_append (plan : Plan) (xs ys : List Game) :
    plan.append (xs ++ ys) =
      ⟨((plan.append xs).plan.append ys).plan,
        (plan.append xs).count + ((plan.append xs).plan.append ys).count⟩ := by
  simp only [append, Game.fresh_append, List.append_assoc, List.length_append]

theorem add_of_chosen (plan : Plan) (h : chosen text view = .ok games) :
    plan.add text view = .ok (plan.append games) := by
  rw [add, h]
  rfl

theorem add_of_chosen_error (plan : Plan) {e : Error} (h : chosen text view = .error e) :
    plan.add text view = .error e := by
  rw [add, h]
  rfl

theorem add_of_asks (plan : Plan) (h : Asks view text.trim games) :
    plan.add text view = .ok (plan.append games) :=
  add_of_chosen plan (chosen_of_asks h)

theorem outcome_add_of_asks (plan : Plan) (h : Asks view text.trim games) :
    plan.outcome (.add text view) =
      (⟨plan.games ++ Game.fresh plan.games games⟩,
        .ok (Game.fresh plan.games games).length) :=
  outcome_of_ok (s := .add text view) (add_of_asks plan h)

theorem outcome_add_of_error (plan : Plan) {e : Error} (h : chosen text view = .error e) :
    plan.outcome (.add text view) = (plan, .error e) :=
  outcome_of_error (s := .add text view) (add_of_chosen_error plan h)

/-- What has been added is not added again. -/
theorem outcome_add_again (plan : Plan) (h : Asks view text.trim games) :
    outcome ⟨plan.games ++ Game.fresh plan.games games⟩ (.add text view) =
      (⟨plan.games ++ Game.fresh plan.games games⟩, .ok 0) := by
  have hnone : Game.fresh (plan.games ++ Game.fresh plan.games games) games = [] :=
    Game.fresh_eq_nil fun _ hgame => Game.among_append_fresh hgame
  rw [outcome_add_of_asks _ h, hnone, List.append_nil]
  rfl

/-- An addition appends those games asked for that are the same as no game of the plan and as no
earlier one of those asked for, in the order of the view, and it counts them; once more it adds
nothing.  Where nothing is asked for it fails and leaves the plan as it was: with the error of an
index or a range that does not resolve, and with an invalid argument for any other text. -/
theorem outcome_add (plan : Plan) (text : Text) (view : List Game) :
    (∀ games added, Asks view text.trim games →
      added = (games.zipIdx.filter (Game.isNew plan.games games)).map Prod.fst →
      plan.outcome (.add text view) = (⟨plan.games ++ added⟩, .ok added.length) ∧
      outcome ⟨plan.games ++ added⟩ (.add text view) = (⟨plan.games ++ added⟩, .ok 0)) ∧
    ((∀ games, ¬ Asks view text.trim games) →
      ∃ e, plan.outcome (.add text view) = (plan, .error e) ∧
        ((Selector.parse text.trim).IsPositional →
          (Selector.parse text.trim).resolve view.length = .error e) ∧
        (¬ (Selector.parse text.trim).IsPositional →
          e = .unknownSelector text.trim ∧ e.category = .invalidArgument)) := by
  refine ⟨?_, ?_⟩
  · rintro games added hasks rfl
    rw [← Game.fresh_eq_filter]
    exact ⟨outcome_add_of_asks plan hasks, outcome_add_again plan hasks⟩
  · intro hnone
    rcases chosen_of_not_asks hnone with ⟨e, hchosen, hpositional, htext⟩
    refine ⟨e, outcome_add_of_error plan hchosen, hpositional, ?_⟩
    intro hnot
    rw [htext hnot]
    exact ⟨rfl, rfl⟩

/-- A range beyond the view with a game of the plan in it and with one game twice, once with either
NaN; and a range that is written the wrong way round. -/
theorem outcome_add_duplicates :
    let go : Game := ⟨"Go".toList, 1, 2, 2, 30, 180, ⟨0⟩, 23, ⟨0⟩, -2200⟩
    let hex : Game := ⟨"Hex".toList, 2, 2, 2, 20, 60, .quietNaN false, 90, ⟨0⟩, 1942⟩
    let twin : Game := { hex with difficulty := .quietNaN true }
    let chess : Game := ⟨"Chess".toList, 3, 2, 2, 10, 60, ⟨0⟩, 7, ⟨0⟩, 1475⟩
    let plan : Plan := ⟨[chess]⟩
    let view : List Game := [go, hex, twin, chess]
    Asks view (Text.trim " 2-9 ".toList) [hex, twin, chess] ∧
      plan.outcome (.add " 2-9 ".toList view) = (⟨[chess, hex]⟩, .ok 1) ∧
      outcome ⟨[chess, hex]⟩ (.add " 2-9 ".toList view) = (⟨[chess, hex]⟩, .ok 0) ∧
      (∀ games, ¬ Asks view (Text.trim "9-2".toList) games) ∧
      plan.outcome (.add "9-2".toList view) = (plan, .error (.reversedRange 9 2)) := by
  intro go hex twin chess plan view
  have hparse : Selector.parse (Text.trim " 2-9 ".toList) = .range 2 9 := by decide +kernel
  have hasks : Asks view (Text.trim " 2-9 ".toList) [hex, twin, chess] := by
    have hslice : Selector.Span.slice ⟨1, 3⟩ view = [hex, twin, chess] := rfl
    rw [← hslice]
    refine .positions ?_ ?_ ?_
    · decide +kernel
    · rw [hparse]
      trivial
    · rw [hparse]
      rfl
  have hreversed : Selector.parse (Text.trim "9-2".toList) = .range 9 2 := by decide +kernel
  have hnone : ∀ games, ¬ Asks view (Text.trim "9-2".toList) games := by
    intro games h
    have hchosen : chosen "9-2".toList view = .error (.reversedRange 9 2) := by decide +kernel
    rw [chosen_of_asks h] at hchosen
    cases hchosen
  rcases (outcome_add plan " 2-9 ".toList view).1 [hex, twin, chess] [hex] hasks
    (by decide +kernel) with ⟨hadd, hagain⟩
  rcases (outcome_add plan "9-2".toList view).2 hnone with ⟨e, hfail, hpositional, -⟩
  refine ⟨hasks, hadd, hagain, hnone, ?_⟩
  rw [hreversed] at hpositional
  have he : Except.error (.reversedRange 9 2) = Except.error e := hpositional trivial
  cases he
  exact hfail

end Plan
end GameShelf
