import GameShelf.Proofs.Filter.Query
import GameShelf.Proofs.Plan.Adding

/-!
# Filling a plan from a view of a collection

A collection has no duplicates, and neither filtering nor sorting brings any in.  So a view of it,
or a stretch of the view, added to the empty plan is taken over as it is: no game is left out and
the order stays.
-/

set_option autoImplicit false

namespace GameShelf

namespace Game

variable {games other : List Game}

/-- Having no duplicates does not depend on the order. -/
theorem Distinct.perm (h : Distinct games) (hperm : games.Perm other) : Distinct other := by
  refine hperm.pairwise h ?_
  intro a b hab
  rwa [same_comm]

end Game

namespace Collection

variable {collection : Collection} {text : Text} {key : Option Field} {direction : Direction}
  {view : List Game}

/-- The view is what a query of the collection gives, sorted or not. -/
def Shows (collection : Collection) (text : Text) (key : Option Field) (direction : Direction)
    (view : List Game) : Prop :=
  collection.filter text = .ok view ∨ collection.filterAndSort text key direction = .ok view

theorem distinct_of_filter (h : collection.filter text = .ok view) : Game.Distinct view := by
  rcases filter_eq_ok_iff.1 h with ⟨filter, -, rfl⟩
  exact distinct_filter filter.accepts

theorem distinct_of_filterAndSort (h : collection.filterAndSort text key direction = .ok view) :
    Game.Distinct view := by
  rcases bind_eq_ok_iff.1 h with ⟨games, hfilter, hsort⟩
  rcases bind_eq_ok_iff.1 hsort with ⟨order, -, hview⟩
  cases hview
  exact (distinct_of_filter hfilter).perm (order.sort_perm games).symm

/-- No view of a collection has a game twice. -/
theorem Shows.distinct (h : collection.Shows text key direction view) : Game.Distinct view := by
  rcases h with hfilter | hquery
  · exact distinct_of_filter hfilter
  · exact distinct_of_filterAndSort hquery

end Collection

namespace Plan

variable {text : Text} {view games : List Game} {start stop : Nat}

/-- Games without duplicates are all added to the empty plan. -/
theorem outcome_empty_add (hasks : Asks view text.trim games) (h : Game.Distinct games) :
    empty.outcome (.add text view) = (⟨games⟩, .ok games.length) := by
  have hgames : empty.games = [] := rfl
  rw [outcome_add_of_asks empty hasks, hgames, h.fresh_nil, List.nil_append]

theorem asks_all (h : Unnamed "all".toList view) : Asks view (Text.trim "all".toList) view := by
  have htrim : Text.trim "all".toList = "all".toList := by decide
  rw [htrim]
  exact .all h (by decide)

/-- A written range asks for the games from its start to its end, or to the end of the view. -/
theorem asks_writeRange (hstart : 1 ≤ start) (hview : start ≤ view.length)
    (hheld : view.length ≤ Selector.maxPosition) (hstop : start ≤ stop)
    (h : Unnamed (Selector.writeRange start stop) view) :
    Asks view (Selector.writeRange start stop).trim ((view.take stop).drop (start - 1)) := by
  have hresolve := Selector.resolve_parse_writeRange hstart hview hheld hstop
  have hpositional : (Selector.parse (Selector.writeRange start stop)).IsPositional := by
    rw [Selector.parse_writeRange]
    trivial
  -- The stretch is cut out first at its start; taking up to its end first comes to the same.
  have hslice : Selector.Span.slice ⟨start - 1, min stop view.length - 1⟩ view =
      (view.take stop).drop (start - 1) := by
    change (view.drop (start - 1)).take (min stop view.length - 1 + 1 - (start - 1)) = _
    rw [List.drop_take, List.take_eq_take_iff, List.length_drop]
    omega
  rw [(Selector.unbroken_writeRange start stop).trim_eq, ← hslice]
  exact .positions h hpositional hresolve

/-- From any view of a collection, `all` fills the empty plan with the whole view, and a range that
begins in the view with the games from its start to its end or to the end of the view, in the order
of the view, unless the text is the name of a game of the view. -/
theorem outcome_empty_add_view (input : List Game) (filter : Text) (key : Option Field)
    (direction : Direction) (view : List Game)
    (hview : (Collection.ofList input).Shows filter key direction view) :
    (Unnamed "all".toList view →
      empty.outcome (.add "all".toList view) = (⟨view⟩, .ok view.length)) ∧
    (∀ start stop, 1 ≤ start → start ≤ view.length → view.length ≤ Selector.maxPosition →
      start ≤ stop → Unnamed (Selector.writeRange start stop) view →
        empty.outcome (.add (Selector.writeRange start stop) view) =
          (⟨(view.take stop).drop (start - 1)⟩, .ok (min stop view.length - start + 1))) := by
  refine ⟨?_, ?_⟩
  · intro hname
    exact outcome_empty_add (asks_all hname) hview.distinct
  · intro start stop hstart hlength hheld hstop hname
    have hsublist : ((view.take stop).drop (start - 1)).Sublist view :=
      (List.drop_sublist _ _).trans (List.take_sublist _ _)
    have hcount : ((view.take stop).drop (start - 1)).length =
        min stop view.length - start + 1 := by
      rw [List.length_drop, List.length_take]
      omega
    rw [outcome_empty_add (asks_writeRange hstart hlength hheld hstop hname)
      (hview.distinct.sublist hsublist), hcount]

/-- A game twice in the input, once with either NaN, and a range that ends beyond the view and
beyond every position that can be held. -/
theorem outcome_empty_add_view_duplicates :
    let go : Game := ⟨"Go".toList, 1, 2, 2, 30, 180, ⟨0⟩, 23, ⟨0⟩, -2200⟩
    let hex : Game := ⟨"Hex".toList, 2, 2, 2, 20, 60, .quietNaN false, 90, ⟨0⟩, 1942⟩
    let twin : Game := { hex with difficulty := .quietNaN true }
    let chess : Game := ⟨"Chess".toList, 3, 2, 2, 10, 60, ⟨0⟩, 7, ⟨0⟩, 1475⟩
    let view : List Game := [hex, go, chess]
    (Collection.ofList [hex, twin, go, hex, chess]).Shows "rank > 1".toList (some .rank)
        .descending view ∧
      empty.outcome (.add "all".toList view) = (⟨view⟩, .ok 3) ∧
      empty.outcome (.add "2-99999999999999999999".toList view) = (⟨[go, chess]⟩, .ok 2) := by
  intro go hex twin chess view
  have hfilter : (Collection.ofList [hex, twin, go, hex, chess]).filter "rank > 1".toList =
      .ok view := by
    decide +kernel
  have hsorted : Order.sort ⟨.rank, .descending⟩ view = view :=
    List.mergeSort_of_pairwise (by decide +kernel)
  have hview : (Collection.ofList [hex, twin, go, hex, chess]).Shows "rank > 1".toList
      (some .rank) .descending view := by
    right
    rw [Collection.filterAndSort_of_ok hfilter]
    exact congrArg Except.ok hsorted
  rcases outcome_empty_add_view _ _ _ _ view hview with ⟨hall, hrange⟩
  have hwritten : Selector.writeRange 2 99999999999999999999 =
      "2-99999999999999999999".toList := by
    decide +kernel
  have hadd := hrange 2 99999999999999999999 (by decide) (by decide) (by decide) (by decide)
    (by decide +kernel)
  rw [hwritten] at hadd
  exact ⟨hview, hall (by decide +kernel), hadd⟩

end Plan
end GameShelf
