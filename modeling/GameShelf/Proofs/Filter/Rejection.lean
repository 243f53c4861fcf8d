import GameShelf.Proofs.Clause.Rejection
import GameShelf.Proofs.Filter.Conjunction

/-!
# The first bad clause

A filter is read piece by piece, from left to right.  It is refused if one of its pieces is no
clause, and then with the error of the first such piece, whatever is wrong with the later ones.

`Filter.parse_eq_error_iff_leftmost` says which filters are refused and with which errors.
-/

set_option autoImplicit false

namespace GameShelf.Filter

variable {t : Text} {ps : List Text} {filter : Filter} {e : Error}

/-! ## Pieces -/

/-- Reading pieces succeeds when each of them is a clause, and gives these clauses in order. -/
theorem parsePieces_eq_ok_iff :
    parsePieces ps = .ok filter ↔
      ps.map (fun p => (Clause.parse p.trim).map Predicate.clause) = filter.map .ok := by
  induction ps generalizing filter with
  | nil => cases filter <;> simp [parsePieces]
  | cons p ps ih =>
      rw [parsePieces, bind_eq_ok_iff, List.map_cons, eq_comm, List.map_eq_cons_iff]
      constructor
      · rintro ⟨clause, hclause, h⟩
        rcases bind_eq_ok_iff.1 h with ⟨rest, hrest, hfilter⟩
        refine ⟨.clause clause, rest, (Except.ok.inj hfilter).symm, ?_, (ih.1 hrest).symm⟩
        rw [hclause]
        rfl
      · rintro ⟨predicate, rest, rfl, hpredicate, hrest⟩
        rcases map_eq_ok_iff.1 hpredicate.symm with ⟨clause, hclause, rfl⟩
        exact ⟨clause, hclause, bind_eq_ok_iff.2 ⟨rest, ih.2 hrest.symm, rfl⟩⟩

theorem exists_clause_of_mem_pieces (h : parsePieces ps = .ok filter) {p : Text} (hp : p ∈ ps) :
    ∃ clause, Clause.parse p.trim = .ok clause := by
  have himage := List.mem_map_of_mem (f := fun p => (Clause.parse p.trim).map Predicate.clause) hp
  rw [parsePieces_eq_ok_iff.1 h] at himage
  rcases List.mem_map.1 himage with ⟨predicate, -, hpredicate⟩
  rcases map_eq_ok_iff.1 hpredicate.symm with ⟨clause, hclause, -⟩
  exact ⟨clause, hclause⟩

/-- A clause of a filter that was read is the reading of a piece. -/
theorem exists_piece_of_mem (h : parsePieces ps = .ok filter) {clause : Clause}
    (hclause : .clause clause ∈ filter) : ∃ p ∈ ps, Clause.parse p.trim = .ok clause := by
  have himage := List.mem_map_of_mem (f := Except.ok (ε := Error)) hclause
  rw [← parsePieces_eq_ok_iff.1 h] at himage
  rcases List.mem_map.1 himage with ⟨p, hp, hpredicate⟩
  rcases map_eq_ok_iff.1 hpredicate with ⟨_, hparse, hsame⟩
  cases hsame
  exact ⟨p, hp, hparse⟩

theorem parsePieces_cons_of_error {p : Text} (h : Clause.parse p.trim = .error e) :
    parsePieces (p :: ps) = .error e := by
  rw [parsePieces, h]
  rfl

theorem parsePieces_cons_eq_error_iff {p : Text} {clause : Clause}
    (h : Clause.parse p.trim = .ok clause) :
    parsePieces (p :: ps) = .error e ↔ parsePieces ps = .error e := by
  rw [parsePieces, h]
  cases hrest : parsePieces ps with
  | error e' => simp [bind, Except.bind]
  | ok rest => simp [bind, Except.bind, pure, Except.pure]

/-- Reading pieces fails with the error of the first one that is no clause. -/
theorem parsePieces_eq_error_iff :
    parsePieces ps = .error e ↔
      ∃ earlier piece later, ps = earlier ++ piece :: later ∧
        (∀ p ∈ earlier, ∃ clause, Clause.parse p.trim = .ok clause) ∧
        Clause.parse piece.trim = .error e := by
  induction ps with
  | nil => simp [parsePieces]
  | cons p ps ih =>
      cases hp : Clause.parse p.trim with
      | error e' =>
          rw [parsePieces_cons_of_error hp]
          constructor
          · intro h
            cases h
            exact ⟨[], p, ps, rfl, by simp, hp⟩
          · rintro ⟨earlier, piece, later, hps, hgood, hpiece⟩
            cases earlier with
            | nil =>
                cases hps
                have hsame : e' = e := Except.error.inj (hp.symm.trans hpiece)
                rw [hsame]
            | cons q earlier =>
                -- The first piece is no clause, so no later one is the first.
                cases hps
                rcases hgood p List.mem_cons_self with ⟨clause, hclause⟩
                rw [hp] at hclause
                cases hclause
      | ok clause =>
          rw [parsePieces_cons_eq_error_iff hp, ih]
          constructor
          · rintro ⟨earlier, piece, later, rfl, hgood, hpiece⟩
            exact ⟨p :: earlier, piece, later, rfl, List.forall_mem_cons.2 ⟨⟨clause, hp⟩, hgood⟩,
              hpiece⟩
          · rintro ⟨earlier, piece, later, hps, hgood, hpiece⟩
            cases earlier with
            | nil =>
                cases hps
                rw [hp] at hpiece
                cases hpiece
            | cons q earlier =>
                cases hps
                exact ⟨earlier, piece, later, rfl, (List.forall_mem_cons.1 hgood).2, hpiece⟩

/-- Reading pieces fails as soon as one of them is no clause. -/
theorem exists_parsePieces_eq_error_iff :
    (∃ e, parsePieces ps = .error e) ↔ ∃ piece ∈ ps, ∃ e, Clause.parse piece.trim = .error e := by
  constructor
  · rintro ⟨e, he⟩
    rcases parsePieces_eq_error_iff.1 he with ⟨earlier, piece, later, rfl, -, hpiece⟩
    exact ⟨piece, by simp, e, hpiece⟩
  · rintro ⟨piece, hmem, e, hpiece⟩
    cases hps : parsePieces ps with
    | error e' => exact ⟨e', rfl⟩
    | ok filter =>
        rcases exists_clause_of_mem_pieces hps hmem with ⟨clause, hclause⟩
        rw [hpiece] at hclause
        cases hclause

/-! ## Filters -/

theorem parse_eq_error_iff_parsePieces :
    parse t = .error e ↔ t.trim ≠ [] ∧ parsePieces t.pieces = .error e := by
  by_cases hblank : t.trim = []
  · simp [parse, hblank]
  · simp [parse_of_not_blank hblank, hblank]

/-- A clause of a filter that was read is the reading of one of its pieces. -/
theorem exists_clause_parse_of_mem (h : parse t = .ok filter) {clause : Clause}
    (hclause : .clause clause ∈ filter) :
    ∃ piece ∈ t.pieces, Clause.parse piece.trim = .ok clause := by
  by_cases hblank : t.trim = []
  · have hfilter : filter = [.always] := by
      simpa [parse, hblank, eq_comm] using h
    rw [hfilter] at hclause
    cases List.mem_singleton.1 hclause
  · rw [parse_of_not_blank hblank] at h
    exact exists_piece_of_mem h hclause

/-- A filter is refused exactly if it is not blank and one of its pieces is no clause, and then with
the error of the leftmost of these.  Of a single piece `Clause.Rejects` gives the reason: its form,
then the value, then the operator, and nothing else. -/
theorem parse_eq_error_iff_leftmost (t : Text) :
    ((∃ e, parse t = .error e) ↔
      t.trim ≠ [] ∧ ∃ piece ∈ t.pieces, ∃ e, Clause.parse piece.trim = .error e) ∧
    (∀ e, parse t = .error e ↔
      t.trim ≠ [] ∧ ∃ earlier piece later, t.pieces = earlier ++ piece :: later ∧
        (∀ p ∈ earlier, ∃ clause, Clause.parse p.trim = .ok clause) ∧
        Clause.parse piece.trim = .error e) ∧
    (∀ piece e, Clause.parse piece = .error e ↔ Clause.Rejects piece e) ∧
    (∀ e, parse t = .error e →
      e.category = .malformedClause ∨ e.category = .malformedValue ∨
        e.category = .unsupportedOperator) := by
  have hleftmost : ∀ e, parse t = .error e ↔
      t.trim ≠ [] ∧ ∃ earlier piece later, t.pieces = earlier ++ piece :: later ∧
        (∀ p ∈ earlier, ∃ clause, Clause.parse p.trim = .ok clause) ∧
        Clause.parse piece.trim = .error e := by
    intro e
    rw [parse_eq_error_iff_parsePieces, parsePieces_eq_error_iff]
  refine ⟨?_, hleftmost, fun _ _ => Clause.parse_eq_error_iff, ?_⟩
  · simp only [parse_eq_error_iff_parsePieces, exists_and_left, exists_parsePieces_eq_error_iff]
  · intro e he
    rcases (hleftmost e).1 he with ⟨-, earlier, piece, later, -, -, hpiece⟩
    exact (Clause.rejects_of_parse hpiece).category

/-- Of two bad pieces the first is reported: its value is no number, which goes before the operator
that does not apply. -/
theorem parse_eq_error_iff_leftmost_value :
    let t : Text := "rank > 7, rating ~= x, bogus".toList
    let e : Error := .malformedValue .rating "x".toList .invalidDecimal
    parse t = .error e ∧ Clause.Rejects "rating ~= x".toList e ∧ e.category = .malformedValue := by
  intro t e
  have hpieces : t.pieces = ["rank > 7".toList] ++ " rating ~= x".toList :: [" bogus".toList] := by
    decide
  have hgood : ∀ p ∈ ["rank > 7".toList], ∃ clause, Clause.parse (Text.trim p) = .ok clause := by
    rintro p hp
    rw [List.mem_singleton.1 hp]
    exact ⟨⟨.rank, .greater, .number (.int 7), rfl, rfl⟩, by decide +kernel⟩
  have hbad : Clause.parse (Text.trim " rating ~= x".toList) = .error e := by decide +kernel
  rcases parse_eq_error_iff_leftmost t with ⟨-, hleftmost, hreasons, hcategory⟩
  have herror : parse t = .error e :=
    (hleftmost e).2 ⟨by decide, _, _, _, hpieces, hgood, hbad⟩
  refine ⟨herror, (hreasons _ e).1 hbad, ?_⟩
  rcases hcategory e herror with h | h | h
  · cases h
  · exact h
  · cases h

end GameShelf.Filter
