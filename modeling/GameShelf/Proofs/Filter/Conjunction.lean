import GameShelf.Collection
import GameShelf.Proofs.Outcome
import GameShelf.Proofs.Text.Pieces

/-!
# The comma is a conjunction

A comma between two filter texts asks for the games that pass both.  The work is done on the
pieces: those of the joined text are those of its two parts, and reading a list of pieces stops at
the first bad one, so the joined text fails as its first part does, or else as its second.

A blank filter lets every game pass, but as a part of a longer one it is an empty clause.  It is
then malformed, unless a clause in front of it is reported first.
-/

set_option autoImplicit false

namespace GameShelf

/-! ## Reading both parts -/

namespace Filter

theorem accepts_append (x y : Filter) (game : Game) :
    Filter.accepts (x ++ y) game = (x.accepts game && y.accepts game) :=
  List.all_append

theorem parsePieces_append (ps qs : List Text) :
    parsePieces (ps ++ qs) = do
      let x ← parsePieces ps
      let y ← parsePieces qs
      return x ++ y := by
  induction ps with
  | nil =>
      change parsePieces qs = (parsePieces qs >>= fun y => pure ([] ++ y))
      simp
  | cons p ps ih =>
      simp [parsePieces, ih]

/-- The empty clause has no operator. -/
theorem parsePieces_of_blank {t : Text} (h : t.trim = []) (rest : List Text) :
    parsePieces (t :: rest) = .error (.malformedClause [] .noOperator) := by
  have hempty : Clause.parse [] = .error (.malformedClause [] .noOperator) := rfl
  rw [parsePieces, h, hempty]
  rfl

theorem parse_of_not_blank {t : Text} (h : t.trim ≠ []) : parse t = parsePieces t.pieces := by
  simp [parse, h]

/-- The joined text is read as its pieces, whatever its parts are. -/
theorem parse_comma (a b : Text) :
    parse (a ++ ',' :: b) = parsePieces (a.pieces ++ b.pieces) := by
  rw [parse_of_not_blank (Text.trim_append_comma_ne_nil a b), Text.pieces_append_comma]

theorem parse_comma_of_not_blank {a b : Text} (ha : a.trim ≠ []) (hb : b.trim ≠ []) :
    parse (a ++ ',' :: b) = do
      let x ← parse a
      let y ← parse b
      return x ++ y := by
  rw [parse_comma, parsePieces_append, parse_of_not_blank ha, parse_of_not_blank hb]

theorem parse_comma_of_blank_left {a : Text} (ha : a.trim = []) (b : Text) :
    parse (a ++ ',' :: b) = .error (.malformedClause [] .noOperator) := by
  rw [parse_comma, Text.pieces_of_blank ha]
  exact parsePieces_of_blank ha b.pieces

theorem parse_comma_of_blank_right {a b : Text} (ha : a.trim ≠ []) (hb : b.trim = []) :
    parse (a ++ ',' :: b) = parse a >>= fun _ => .error (.malformedClause [] .noOperator) := by
  rw [parse_comma, parsePieces_append, ← parse_of_not_blank ha, Text.pieces_of_blank hb,
    parsePieces_of_blank hb]
  rfl

end Filter

/-! ## The games that pass both -/

namespace Collection

variable {collection : Collection} {a b : Text} {x y : List Game} {e : Error}

theorem filter_eq_ok_iff :
    collection.filter a = .ok x ↔
      ∃ filter, Filter.parse a = .ok filter ∧ collection.games.filter filter.accepts = x := by
  simp [filter, bind_eq_ok_iff, pure, Except.pure]

theorem filter_eq_error_iff :
    collection.filter a = .error e ↔ Filter.parse a = .error e := by
  cases hparse : Filter.parse a with
  | error e' =>
      simp [filter, hparse, bind, Except.bind]
  | ok filter =>
      simp [Collection.filter, hparse, bind, Except.bind, pure, Except.pure]

theorem distinct_filter (p : Game → Bool) : Game.Distinct (collection.games.filter p) :=
  List.Pairwise.filter p collection.distinct

/-- Where both parts are filters, the joined text keeps the games that both keep. -/
theorem filter_comma_of_ok (ha : a.trim ≠ []) (hb : b.trim ≠ [])
    (hx : collection.filter a = .ok x) (hy : collection.filter b = .ok y) :
    collection.filter (a ++ ',' :: b) =
      .ok (collection.games.filter fun game => game ∈ x ∧ game ∈ y) := by
  rcases filter_eq_ok_iff.1 hx with ⟨first, hfirst, rfl⟩
  rcases filter_eq_ok_iff.1 hy with ⟨second, hsecond, rfl⟩
  have hparse : Filter.parse (a ++ ',' :: b) = .ok (first ++ second) := by
    rw [Filter.parse_comma_of_not_blank ha hb, hfirst, hsecond]
    rfl
  refine filter_eq_ok_iff.2 ⟨first ++ second, hparse, ?_⟩
  -- For a game of the collection, to be selected by a part is to pass its clauses.
  refine List.filter_congr ?_
  intro game hgame
  simp [Filter.accepts_append, hgame]

theorem filter_comma_of_error_left (ha : a.trim ≠ []) (hx : collection.filter a = .error e)
    (b : Text) : collection.filter (a ++ ',' :: b) = .error e := by
  -- The pieces of the first part come first, so nothing of the second part is read.
  have hparse : Filter.parsePieces a.pieces = .error e := by
    rw [← Filter.parse_of_not_blank ha]
    exact filter_eq_error_iff.1 hx
  refine filter_eq_error_iff.2 ?_
  rw [Filter.parse_comma, Filter.parsePieces_append, hparse]
  rfl

theorem filter_comma_of_error_right (ha : a.trim ≠ []) (hb : b.trim ≠ [])
    (hx : collection.filter a = .ok x) (hy : collection.filter b = .error e) :
    collection.filter (a ++ ',' :: b) = .error e := by
  rcases filter_eq_ok_iff.1 hx with ⟨first, hfirst, -⟩
  refine filter_eq_error_iff.2 ?_
  rw [Filter.parse_comma_of_not_blank ha hb, hfirst, filter_eq_error_iff.1 hy]
  rfl

theorem filter_comma_of_blank_right (ha : a.trim ≠ []) (hb : b.trim = [])
    (hx : collection.filter a = .ok x) :
    collection.filter (a ++ ',' :: b) = .error (.malformedClause [] .noOperator) := by
  rcases filter_eq_ok_iff.1 hx with ⟨first, hfirst, -⟩
  refine filter_eq_error_iff.2 ?_
  rw [Filter.parse_comma_of_blank_right ha hb, hfirst]
  rfl

/-- A joined text is a filter only if both parts are. -/
theorem exists_ok_of_filter_comma (ha : a.trim ≠ []) (hb : b.trim ≠ [])
    (h : collection.filter (a ++ ',' :: b) = .ok x) :
    (∃ y, collection.filter a = .ok y) ∧ ∃ z, collection.filter b = .ok z := by
  -- If one part failed, the joined text would fail with it.
  cases hfirst : collection.filter a with
  | error e =>
      rw [filter_comma_of_error_left ha hfirst] at h
      cases h
  | ok y =>
      cases hsecond : collection.filter b with
      | error e =>
          rw [filter_comma_of_error_right ha hb hfirst hsecond] at h
          cases h
      | ok z =>
          exact ⟨⟨y, rfl⟩, z, rfl⟩

theorem filter_comma_self (ha : a.trim ≠ []) :
    collection.filter (a ++ ',' :: a) = collection.filter a := by
  cases hx : collection.filter a with
  | error e =>
      exact filter_comma_of_error_left ha hx a
  | ok x =>
      rcases filter_eq_ok_iff.1 hx with ⟨filter, -, rfl⟩
      rw [filter_comma_of_ok ha ha hx hx]
      refine congrArg Except.ok (List.filter_congr ?_)
      intro game hgame
      simp [hgame]

/-- Joining two filter texts by a comma asks for the games that pass both, in the order of the
collection; the first text that fails decides the error.  A blank text in front makes an empty
first clause; one behind makes an empty last clause, which only counts if the first text is a
filter. -/
theorem filter_comma (collection : Collection) (a b : Text) :
    (a.trim ≠ [] → b.trim ≠ [] →
      ((∃ games, collection.filter (a ++ ',' :: b) = .ok games) ↔
        (∃ x, collection.filter a = .ok x) ∧ ∃ y, collection.filter b = .ok y) ∧
      (∀ x y, collection.filter a = .ok x → collection.filter b = .ok y →
        ∃ games, collection.filter (a ++ ',' :: b) = .ok games ∧
          games = collection.games.filter (fun game => game ∈ x ∧ game ∈ y) ∧
          Game.Distinct games ∧ collection.filter (b ++ ',' :: a) = .ok games) ∧
      collection.filter (a ++ ',' :: a) = collection.filter a ∧
      (∀ e, collection.filter a = .error e → collection.filter (a ++ ',' :: b) = .error e) ∧
      (∀ x e, collection.filter a = .ok x → collection.filter b = .error e →
        collection.filter (a ++ ',' :: b) = .error e)) ∧
    (a.trim = [] → b.trim ≠ [] →
      collection.filter (a ++ ',' :: b) = .error (.malformedClause [] .noOperator)) ∧
    (a.trim ≠ [] → b.trim = [] →
      (∀ e, collection.filter a = .error e → collection.filter (a ++ ',' :: b) = .error e) ∧
      (∀ x, collection.filter a = .ok x →
        collection.filter (a ++ ',' :: b) = .error (.malformedClause [] .noOperator))) := by
  refine ⟨?_, ?_, ?_⟩
  · intro ha hb
    refine ⟨⟨?_, ?_⟩, ?_, filter_comma_self ha, ?_, ?_⟩
    · rintro ⟨games, hgames⟩
      exact exists_ok_of_filter_comma ha hb hgames
    · rintro ⟨⟨x, hx⟩, y, hy⟩
      exact ⟨_, filter_comma_of_ok ha hb hx hy⟩
    · intro x y hx hy
      refine ⟨_, filter_comma_of_ok ha hb hx hy, rfl, distinct_filter _, ?_⟩
      -- Passing both does not depend on the order of the two.
      rw [filter_comma_of_ok hb ha hy hx]
      simp [and_comm]
    · intro e he
      exact filter_comma_of_error_left ha he b
    · intro x e hx he
      exact filter_comma_of_error_right ha hb hx he
  · intro ha _
    exact filter_eq_error_iff.2 (Filter.parse_comma_of_blank_left ha b)
  · intro ha hb
    refine ⟨?_, ?_⟩
    · intro e he
      exact filter_comma_of_error_left ha he b
    · intro x hx
      exact filter_comma_of_blank_right ha hb hx

/-- Two clauses in front of the comma, one behind it. -/
theorem filter_comma_two_clauses :
    let go : Game := ⟨"Go".toList, 1, 2, 2, 30, 180, ⟨0⟩, 23, ⟨0⟩, -2200⟩
    let fish : Game := ⟨"Go Fish".toList, 2, 2, 10, 20, 120, ⟨0⟩, 200, ⟨0⟩, 2001⟩
    let azul : Game := ⟨"Azul".toList, 3, 2, 4, 30, 45, ⟨0⟩, 50, ⟨0⟩, 2017⟩
    let a : Text := "name ~= go, rank < 300".toList
    let b : Text := "max_players <= 4".toList
    a.trim ≠ [] ∧ b.trim ≠ [] ∧
      (ofList [go, fish, azul]).filter (a ++ ',' :: b) = .ok [go] := by
  intro go fish azul a b
  have ha : a.trim ≠ [] := by decide
  have hb : b.trim ≠ [] := by decide
  have hx : (ofList [go, fish, azul]).filter a = .ok [go, fish] := by decide +kernel
  have hy : (ofList [go, fish, azul]).filter b = .ok [go, azul] := by decide +kernel
  rcases ((filter_comma (ofList [go, fish, azul]) a b).1 ha hb).2.1 _ _ hx hy with
    ⟨games, hgames, hboth, -⟩
  refine ⟨ha, hb, ?_⟩
  rw [hgames, hboth]
  decide +kernel

/-- A blank text behind a comma need not show: here the value in front of it is reported. -/
theorem filter_comma_blank_not_malformedClause :
    ¬ ∀ (collection : Collection) (a b : Text), (a.trim = [] ↔ b.trim ≠ []) →
      ∃ clause fault,
        collection.filter (a ++ ',' :: b) = .error (.malformedClause clause fault) := by
  intro h
  have hvalue : (ofList []).filter ("rank == ten".toList ++ ',' :: []) =
      .error (.malformedValue .rank "ten".toList .invalidDigit) := rfl
  -- The clause in front is well-formed, but its value is not.
  rcases h (ofList []) "rank == ten".toList [] (by decide) with ⟨clause, fault, hfault⟩
  rw [hvalue] at hfault
  cases hfault

end Collection
end GameShelf
