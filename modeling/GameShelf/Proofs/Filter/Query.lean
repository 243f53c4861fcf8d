import GameShelf.Proofs.Filter.Conjunction
import GameShelf.Proofs.Order.StableSort

/-!
# A query is a filter and a stable sort

A collection answers a query by filtering its games and sorting what is left.  The filter is the
test of single games, applied to each game in the order of the collection.  Because the sort is
stable, it makes no difference to sort the whole collection first and to select from the result.
-/

set_option autoImplicit false

namespace GameShelf

variable {text : Text} {filter : Filter} {game : Game} {e : Error}

/-! ## Testing single games -/

namespace Filter

theorem admits_of_parse (h : parse text = .ok filter) (game : Game) :
    admits text game = .ok (filter.accepts game) := by
  rw [admits, h]
  rfl

/-- What a filter text selects is what its tests accept. -/
theorem admits_iff_accepts (h : parse text = .ok filter) (game : Game) :
    admits text game = .ok true ↔ filter.accepts game = true := by
  rw [admits_of_parse h, Except.ok.injEq]

end Filter

namespace Collection

variable {collection : Collection} {games : List Game} {key : Option Field} {field : Field}
  {direction : Direction}

/-- The games for which the test of single games passes, in the order of the collection. -/
theorem filter_eq_of_ok (h : collection.filter text = .ok games) :
    games = collection.games.filter fun game => Filter.admits text game = .ok true := by
  rcases filter_eq_ok_iff.1 h with ⟨filter, hparse, rfl⟩
  refine List.filter_congr ?_
  intro game _
  simp [Filter.admits_iff_accepts hparse game]

/-! ## Sorting what the filter selects -/

theorem filterAndSort_of_error (h : collection.filter text = .error e) (key : Option Field)
    (direction : Direction) : collection.filterAndSort text key direction = .error e := by
  rw [filterAndSort, h]
  rfl

theorem filterAndSort_of_ok (h : collection.filter text = .ok games) (key : Option Field)
    (direction : Direction) :
    collection.filterAndSort text key direction = sortGames games key direction := by
  rw [filterAndSort, h]
  rfl

/-- Sorting the whole collection and selecting from it gives the same games in the same order. -/
theorem sort_eq_filter_sort (h : collection.filter text = .ok games) (order : Order) :
    order.sort games =
      (order.sort collection.games).filter fun game => Filter.admits text game = .ok true := by
  calc
    order.sort games
        = order.sort (collection.games.filter fun game => Filter.admits text game = .ok true) :=
          congrArg order.sort (filter_eq_of_ok h)
    _ = (order.sort collection.games).filter fun game => Filter.admits text game = .ok true :=
          (order.filter_sort _ collection.games).symm

/-- A query fails with the error of its filter text, or else for want of a key.  Otherwise it gives
the games for which the test of single games passes: without sorting in the order of the
collection, each once, and with sorting in the order in which the sorted collection has them. -/
theorem filterAndSort_eq_filter_sorted (collection : Collection) (text : Text)
    (direction : Direction) :
    (∀ e, collection.filter text = .error e ↔ Filter.parse text = .error e) ∧
    (∀ e key, collection.filter text = .error e →
      collection.filterAndSort text key direction = .error e) ∧
    (∀ games, collection.filter text = .ok games →
      games = collection.games.filter (fun game => Filter.admits text game = .ok true) ∧
      Game.Distinct games ∧
      (collection.filterAndSort text none direction = .error .noSortKey ∧
        Error.noSortKey.category = .invalidArgument) ∧
      ∀ field, ∃ sorted whole,
        collection.filterAndSort text (some field) direction = .ok sorted ∧
        sortGames games (some field) direction = .ok sorted ∧
        sortGames collection.games (some field) direction = .ok whole ∧
        sorted = whole.filter fun game => Filter.admits text game = .ok true) := by
  refine ⟨?_, ?_, ?_⟩
  · intro e
    exact filter_eq_error_iff
  · intro e key he
    exact filterAndSort_of_error he key direction
  · intro games hgames
    have heq : games = collection.games.filter fun game => Filter.admits text game = .ok true :=
      filter_eq_of_ok hgames
    refine ⟨heq, ?_, ⟨?_, rfl⟩, ?_⟩
    · rw [heq]
      exact distinct_filter _
    · exact filterAndSort_of_ok hgames none direction
    · intro field
      refine ⟨Order.sort ⟨field, direction⟩ games, Order.sort ⟨field, direction⟩ collection.games,
        ?_, rfl, rfl, sort_eq_filter_sort hgames ⟨field, direction⟩⟩
      exact filterAndSort_of_ok hgames (some field) direction

/-- A NaN comes first and two zeros tie, among the games that are left and in the whole collection;
another filter text is bad. -/
theorem filterAndSort_eq_filter_sorted_ties :
    let go : Game := ⟨"Go".toList, 1, 2, 2, 30, 180, ⟨0⟩, 23, .quietNaN false, -2200⟩
    let fish : Game := ⟨"Go Fish".toList, 2, 2, 10, 20, 120, ⟨0⟩, 200, ⟨0⟩, 2001⟩
    let azul : Game := ⟨"Azul".toList, 3, 2, 4, 30, 45, ⟨0⟩, 50, ⟨0⟩, 2017⟩
    let hex : Game := ⟨"Hex".toList, 4, 2, 2, 20, 60, ⟨0⟩, 700, ⟨0⟩, 1942⟩
    let collection := ofList [azul, fish, go, hex]
    collection.filterAndSort "rank == ten".toList none .descending =
        .error (.malformedValue .rank "ten".toList .invalidDigit) ∧
      collection.filter "max_players <= 4".toList = .ok [azul, go, hex] ∧
      collection.filterAndSort "max_players <= 4".toList (some .rating) .descending =
        .ok [go, azul, hex] ∧
      sortGames collection.games (some .rating) .descending = .ok [go, azul, fish, hex] ∧
      [go, azul, hex] = [go, azul, fish, hex].filter fun game =>
        Filter.admits "max_players <= 4".toList game = .ok true := by
  intro go fish azul hex collection
  have hbad : collection.filter "rank == ten".toList =
      .error (.malformedValue .rank "ten".toList .invalidDigit) := by
    decide +kernel
  have hgood : collection.filter "max_players <= 4".toList = .ok [azul, go, hex] := by
    decide +kernel
  have hleft : sortGames [azul, go, hex] (some .rating) .descending = .ok [go, azul, hex] := by
    have hsorts : Order.SortsTo ⟨.rating, .descending⟩ [azul, go, hex]
        [(go, 1), (azul, 0), (hex, 2)] :=
      Order.sortsTo_of_pairwise (by decide +kernel) (by decide +kernel)
    exact hsorts.games_eq
  have hall : sortGames collection.games (some .rating) .descending =
      .ok [go, azul, fish, hex] := by
    have hgames : collection.games = [azul, fish, go, hex] := by decide +kernel
    have hsorts : Order.SortsTo ⟨.rating, .descending⟩ [azul, fish, go, hex]
        [(go, 2), (azul, 0), (fish, 1), (hex, 3)] :=
      Order.sortsTo_of_pairwise (by decide +kernel) (by decide +kernel)
    rw [hgames]
    exact hsorts.games_eq
  rcases filterAndSort_eq_filter_sorted collection "rank == ten".toList .descending with
    ⟨-, herror, -⟩
  rcases filterAndSort_eq_filter_sorted collection "max_players <= 4".toList .descending with
    ⟨-, -, hok⟩
  rcases hok _ hgood with ⟨-, -, -, hsorted⟩
  rcases hsorted .rating with ⟨sorted, whole, hquery, hquerySorted, hwhole, hselect⟩
  -- Both lists are known, so what the query gives and what it is selected from are known, too.
  rw [hleft] at hquerySorted
  rw [hall] at hwhole
  cases hquerySorted
  cases hwhole
  exact ⟨herror _ none hbad, hgood, hquery, hall, hselect⟩

end Collection
end GameShelf
