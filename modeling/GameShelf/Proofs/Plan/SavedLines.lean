import GameShelf.Proofs.Csv.Unquoted
import GameShelf.Proofs.Plan.Names
import GameShelf.Proofs.Plan.Runs
import GameShelf.Proofs.Text.Lines

/-!
# The lines of a saved plan

A plan is saved with each name on a line.  The lines of the file are the names again as long as no
name holds a line feed, which is so for names from tables without quotes.  Within quotes a table can
put a line feed into a name.  Then the file has more lines than the plan has games, and another plan
may be saved with the same text.
-/

set_option autoImplicit false

namespace GameShelf.Plan

variable {plan other : Plan} {game : Game}

/-- The lines of the saved text are the names, in their order. -/
def OnePerLine (plan : Plan) : Prop :=
  plan.savedText.lines = plan.names.map (· ++ ['\n'])

theorem length_lines_savedText (plan : Plan) :
    plan.savedText.lines.length = plan.size + (plan.games.flatMap (·.name)).count '\n' := by
  have hsize : plan.names.length = plan.size := by
    simpa [size] using (names_perm plan).length_eq
  -- The order of the names does not matter for their line feeds.
  have hcount : plan.names.flatten.count '\n' = (plan.games.flatMap (·.name)).count '\n' := by
    rw [List.flatMap_def]
    exact (names_perm plan).flatten.count_eq '\n'
  calc
    plan.savedText.lines.length = plan.names.length + plan.names.flatten.count '\n' :=
      Text.length_lines_unlines plan.names
    _ = plan.size + (plan.games.flatMap (·.name)).count '\n' := by
      rw [hsize, hcount]

theorem onePerLine_iff : plan.OnePerLine ↔ ∀ game ∈ plan.games, '\n' ∉ game.name := by
  have hnames : (∀ name ∈ plan.names, '\n' ∉ name) ↔ ∀ game ∈ plan.games, '\n' ∉ game.name := by
    simp [(names_perm plan).mem_iff]
  exact Text.lines_unlines_eq_iff.trans hnames

/-- A text with one name per line tells the names. -/
theorem OnePerLine.names_eq (h : plan.OnePerLine) (hother : other.OnePerLine)
    (htext : plan.savedText = other.savedText) : plan.names = other.names := by
  have hlines : plan.names.map (· ++ ['\n']) = other.names.map (· ++ ['\n']) := by
    rw [← h, ← hother, htext]
  exact List.map_injective_iff.2 (List.append_left_injective ['\n']) hlines

/-! ## Names from tables -/

/-- The game is one of those of a table without quotes. -/
def FromUnquoted (game : Game) : Prop :=
  ∃ bytes games, Csv.quote ∉ bytes ∧ Table.load bytes = .ok games ∧ game ∈ games

theorem FromUnquoted.lineFeed_not_mem (h : FromUnquoted game) : '\n' ∉ game.name := by
  rcases h with ⟨bytes, games, hbytes, hload, hgame⟩
  exact Table.lineFeed_not_mem_name hload hgame hbytes

theorem onePerLine_of_fromUnquoted {steps : List Step}
    (h : ∀ text view, Step.add text view ∈ steps → ∀ game ∈ view, FromUnquoted game) :
    (empty.run steps).OnePerLine := by
  rw [onePerLine_iff]
  intro game hgame
  -- The game came in with one of the views.
  rcases offered_run steps game hgame with ⟨before, text, view, after, -, rfl, -, hview⟩
  exact (h text view (by simp) game hview).lineFeed_not_mem

/-- A reachable plan is saved with a line for each game and one more for each line feed in a name.
So the lines are the names exactly when no name holds a line feed, in particular when all views come
from tables without quotes, and among such plans the saved text determines the names. -/
theorem onePerLine_run_iff (steps : List Step) :
    let plan := empty.run steps
    plan.savedText.lines.length = plan.size + (plan.games.flatMap (·.name)).count '\n' ∧
    (plan.OnePerLine ↔ ∀ game ∈ plan.games, '\n' ∉ game.name) ∧
    (∀ others : List Step, plan.OnePerLine → (empty.run others).OnePerLine →
      (plan.savedText = (empty.run others).savedText ↔ plan.names = (empty.run others).names)) ∧
    ((∀ text view, Step.add text view ∈ steps → ∀ game ∈ view, FromUnquoted game) →
      plan.OnePerLine) := by
  intro plan
  refine ⟨length_lines_savedText plan, onePerLine_iff, ?_, onePerLine_of_fromUnquoted⟩
  intro others hplan hothers
  refine ⟨hplan.names_eq hothers, ?_⟩
  intro hnames
  rw [savedText, hnames, savedText]

/-- Two games of a table without quotes, one of them between blanks. -/
theorem onePerLine_run_iff_two_games :
    let fish : Game := ⟨"Fish".toList, 1, 2, 6, 20, 30, ⟨0⟩, 90, ⟨0⟩, 1850⟩
    let go : Game := ⟨"Go".toList, 2, 2, 2, 30, 180, ⟨0⟩, 23, ⟨0⟩, -2200⟩
    let bytes := Utf8.encode (Table.header ++ "Go,2,2,2,30,180,0,23,0,-2200\n".toList ++
      " Fish ,1,2,6,20,30,0,90,0,1850".toList)
    Csv.quote ∉ bytes ∧ Table.load bytes = .ok [go, fish] ∧
      (empty.run [.add "all".toList [go, fish]]).OnePerLine := by
  intro fish go bytes
  have hquote : Csv.quote ∉ bytes := by decide +kernel
  have hload : Table.load bytes = .ok [go, fish] := by decide +kernel
  rcases onePerLine_run_iff [.add "all".toList [go, fish]] with ⟨-, -, -, hunquoted⟩
  refine ⟨hquote, hload, hunquoted ?_⟩
  intro text view hstep game hgame
  simp only [List.mem_singleton, Step.add.injEq] at hstep
  rcases hstep with ⟨-, rfl⟩
  exact ⟨bytes, [go, fish], hquote, hload, hgame⟩

/-- With a name on two lines, one game is saved as two others are. -/
theorem onePerLine_not_always :
    let fishGo : Game := ⟨"Fish\nGo".toList, 3, 2, 2, 30, 60, ⟨0⟩, 1, ⟨0⟩, 2001⟩
    let fish : Game := ⟨"Fish".toList, 1, 2, 6, 20, 30, ⟨0⟩, 90, ⟨0⟩, 1850⟩
    let go : Game := ⟨"Go".toList, 2, 2, 2, 30, 180, ⟨0⟩, 23, ⟨0⟩, -2200⟩
    let bytes := Utf8.encode (Table.header ++ "\"Fish\nGo\",3,2,2,30,60,0,1,0,2001\n".toList ++
      "Fish,1,2,6,20,30,0,90,0,1850\n".toList ++ "Go,2,2,2,30,180,0,23,0,-2200\n".toList)
    let one := empty.run [.add "1".toList [fishGo, fish, go]]
    let two := empty.run [.add "2-3".toList [fishGo, fish, go]]
    Table.load bytes = .ok [fishGo, fish, go] ∧
      one.size = 1 ∧ one.savedText.lines.length = 2 ∧ ¬ one.OnePerLine ∧
      one.savedText = two.savedText ∧ one.names ≠ two.names := by
  intro fishGo fish go bytes one two
  have hload : Table.load bytes = .ok [fishGo, fish, go] := by decide +kernel
  have hone : one.names = [fishGo.name] := by decide +kernel
  have htwo : two.names = [fish.name, go.name] := by
    have hgames : two.games = [fish, go] := by decide +kernel
    rw [names, hgames]
    -- The two are in order as they are.
    exact List.mergeSort_of_pairwise (by decide +kernel)
  refine ⟨hload, by decide +kernel, by decide +kernel, ?_, ?_, ?_⟩
  · rw [onePerLine_iff]
    decide +kernel
  · rw [savedText, savedText, hone, htwo]
    decide
  · rw [hone, htwo]
    decide

end GameShelf.Plan
