import GameShelf.Proofs.Csv.Provenance
import GameShelf.Proofs.Filter.NameTest
import GameShelf.Proofs.Game.Distinct

/-!
# Looking up a loaded game by its name

The filter `name == X` puts a name behind a token, and the name is read back from there.  A loaded
name has no blanks at its ends to lose, so a game is found by its own name if this has no character
with a meaning of its own.  The characters of the tokens are one kind of these.  The comma is the
other: it ends the clause, and what stands behind it is no clause.
-/

set_option autoImplicit false

namespace GameShelf

variable {t written : Text}

/-! ## Texts without tokens -/

/-- The characters that the tokens are made of. -/
def Operator.marks : List Char :=
  ['=', '!', '<', '>', '~']

/-- No character of a token occurs in the text. -/
def Text.Unmarked (t : Text) : Prop :=
  ∀ c ∈ Operator.marks, c ∉ t

instance (t : Text) : Decidable t.Unmarked :=
  decidable_of_iff (Operator.marks.all fun c => !t.contains c) (by simp [Text.Unmarked])

theorem Text.Unmarked.mono {part : Text} (h : t.Unmarked) (hpart : part ⊆ t) : part.Unmarked :=
  fun c hc hmem => h c hc (hpart hmem)

theorem Text.Unmarked.not_isInfix (h : t.Unmarked) (operator : Operator) :
    ¬ operator.token.toList <:+: t := by
  have hmarked : operator.token.toList.any Operator.marks.contains = true := by
    cases operator <;> decide
  rcases List.any_eq_true.1 hmarked with ⟨c, htoken, hmark⟩
  intro hin
  exact h c (List.contains_iff_mem.1 hmark) (hin.mem htoken)

theorem Operator.detect?_of_unmarked (h : t.Unmarked) : detect? t = none := by
  cases hdetect : detect? t with
  | none => rfl
  | some operator =>
      rcases detect?_eq_some_iff.1 hdetect with ⟨_, _, -, hin, -⟩
      exact absurd hin (h.not_isInfix operator)

theorem Clause.parse_of_unmarked (h : t.Unmarked) :
    parse t = .error (.malformedClause t .noOperator) := by
  rw [parse, Operator.detect?_of_unmarked h]
  rfl

namespace Filter

theorem parsePieces_of_unmarked (h : t.Unmarked) :
    ∃ clause, parsePieces t.pieces = .error (.malformedClause clause .noOperator) := by
  rcases Text.exists_pieces_eq_cons t with ⟨first, rest, hpieces, hfirst⟩
  have hunmarked : first.trim.Unmarked :=
    h.mono fun c hc => hfirst.mem ((Text.trim_sublist first).mem hc)
  refine ⟨first.trim, ?_⟩
  rw [hpieces, parsePieces, Clause.parse_of_unmarked hunmarked]
  rfl

/-! ## Names with and without a comma -/

theorem Writable.of_unmarked (h : written.Unmarked) (htrim : written.trim ≠ [])
    (hcomma : ',' ∉ written) : Writable written :=
  ⟨htrim, hcomma, h.not_isInfix .greaterEqual, h.not_isInfix .lessEqual, h.not_isInfix .equal⟩

theorem parsePieces_nameFilter_of_blank (h : written.trim = []) :
    parsePieces [nameFilter written] =
      .error (.malformedClause "name ==".toList (.shape .equal)) := by
  have htrim : (nameFilter written).trim = "name ==".toList := by
    -- The blank of the filter itself goes with those of the name.
    have hend := Text.trimEnd_append_of_blank "name == ".toList h
    rw [Text.trim, trimStart_nameFilter]
    exact hend.trans (by decide)
  rw [parsePieces, htrim]
  rfl

/-- The comma ends the clause, which may lack its value, and no clause follows. -/
theorem parse_nameFilter_of_comma (hcomma : ',' ∈ written) (h : written.Unmarked) :
    ∃ clause fault, parse (nameFilter written) = .error (.malformedClause clause fault) := by
  rcases Text.exists_eq_append_comma hcomma with ⟨front, behind, rfl, hfront⟩
  have hpieces : (nameFilter front).pieces = [nameFilter front] := by
    refine Text.pieces_of_not_mem ?_
    simpa [nameFilter_eq] using hfront
  have hparse : parse (nameFilter (front ++ ',' :: behind)) = do
      let x ← parsePieces [nameFilter front]
      let y ← parsePieces behind.pieces
      return x ++ y := by
    rw [← hpieces, ← parsePieces_append, ← parse_comma]
    rfl
  rw [hparse]
  by_cases hblank : front.trim = []
  · rw [parsePieces_nameFilter_of_blank hblank]
    exact ⟨_, _, rfl⟩
  · -- The clause in front of the comma is well-formed, so the next piece is reported.
    have hwritable : Writable front :=
      .of_unmarked (h.mono (List.subset_append_left front (',' :: behind))) hblank hfront
    rcases parse_nameFilter hwritable with ⟨clause, hclause, -⟩
    rw [parse_of_not_blank (trim_nameFilter_ne_nil front), hpieces] at hclause
    have hbehind : behind.Unmarked := h.mono fun c hc => by simp [hc]
    rcases parsePieces_of_unmarked hbehind with ⟨second, hsecond⟩
    rw [hclause, hsecond]
    exact ⟨_, _, rfl⟩

end Filter

namespace Collection

variable {bytes : Bytes} {games : List Game} {game : Game}

/-- A game of a loaded collection whose name has no character of a token is found by the filter
`name == X` for its own name, with the games whose name is the same in lower case.  If its name has
a comma, the filter is refused. -/
theorem filter_own_name (hload : Table.load bytes = .ok games)
    (hgame : game ∈ (ofList games).games) (hname : game.name ≠ [])
    (hmarks : game.name.Unmarked) :
    (',' ∉ game.name →
      ∃ selected, (ofList games).filter (Filter.nameFilter game.name) = .ok selected ∧
        game ∈ selected ∧
        selected = (ofList games).games.filter (·.name.lowercase = game.name.lowercase)) ∧
    (',' ∈ game.name →
      ∃ clause fault, (ofList games).filter (Filter.nameFilter game.name) =
        .error (.malformedClause clause fault)) := by
  have hloaded : game ∈ games := Game.mem_of_mem_fresh hgame
  have htrim : game.name.trim = game.name := Table.trim_name_of_load hload hloaded
  refine ⟨?_, ?_⟩
  · intro hcomma
    have hwritable : Filter.Writable game.name :=
      .of_unmarked hmarks (by rwa [htrim]) hcomma
    have hfilter := filter_nameFilter_eq (ofList games) hwritable
    rw [htrim] at hfilter
    exact ⟨_, hfilter, List.mem_filter.2 ⟨hgame, by simp⟩, rfl⟩
  · intro hcomma
    rcases Filter.parse_nameFilter_of_comma hcomma hmarks with ⟨clause, fault, hparse⟩
    exact ⟨clause, fault, filter_eq_error_iff.2 hparse⟩

/-- A name between blanks in the table, and a second game of the same name in small letters. -/
theorem filter_own_name_two_games :
    let capital : Game := ⟨"ΟΔΟΣ".toList, 1, 2, 4, 30, 60, ⟨0⟩, 1, ⟨0⟩, 2000⟩
    let small : Game := ⟨"οδος".toList, 2, 2, 4, 30, 60, ⟨0⟩, 2, ⟨0⟩, 2001⟩
    let go : Game := ⟨"Go".toList, 3, 2, 2, 30, 180, ⟨0⟩, 23, ⟨0⟩, -2200⟩
    let bytes := Utf8.encode (Table.header ++
      " ΟΔΟΣ ,1,2,4,30,60,0,1,0,2000\n".toList ++ "Go,3,2,2,30,180,0,23,0,-2200\n".toList ++
      "οδος,2,2,4,30,60,0,2,0,2001\n".toList)
    Table.load bytes = .ok [capital, go, small] ∧
      (ofList [capital, go, small]).filter "name == ΟΔΟΣ".toList = .ok [capital, small] := by
  intro capital small go bytes
  have hload : Table.load bytes = .ok [capital, go, small] := by decide +kernel
  have hgame : capital ∈ (ofList [capital, go, small]).games := by decide +kernel
  rcases (filter_own_name hload hgame (by decide) (by decide)).1 (by decide) with
    ⟨selected, hfilter, -, hselected⟩
  have htwo : selected = [capital, small] := by
    rw [hselected]
    decide +kernel
  rw [htwo] at hfilter
  exact ⟨hload, hfilter⟩

/-- A name with a comma cannot be asked for. -/
theorem filter_own_name_not_always :
    ¬ ∀ (bytes : Bytes) (games : List Game) (game : Game), Table.load bytes = .ok games →
      game ∈ (ofList games).games → game.name ≠ [] → game.name.Unmarked →
        ∃ selected, (ofList games).filter (Filter.nameFilter game.name) = .ok selected ∧
          game ∈ selected := by
  intro h
  let goFish : Game := ⟨"Go, Fish".toList, 1, 2, 6, 20, 30, ⟨0⟩, 90, ⟨0⟩, 1850⟩
  let bytes := Utf8.encode (Table.header ++ "\"Go, Fish\",1,2,6,20,30,0,90,0,1850\n".toList)
  have hload : Table.load bytes = .ok [goFish] := by decide +kernel
  have hrefused : (ofList [goFish]).filter "name == Go, Fish".toList =
      .error (.malformedClause "Fish".toList .noOperator) := by
    decide +kernel
  rcases h bytes [goFish] goFish hload (by decide +kernel) (by decide) (by decide) with
    ⟨selected, hselected, -⟩
  have hfilter : Filter.nameFilter goFish.name = "name == Go, Fish".toList := by decide
  rw [hfilter, hrefused] at hselected
  cases hselected

end Collection
end GameShelf
