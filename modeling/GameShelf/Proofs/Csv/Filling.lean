import GameShelf.Csv.Sheet
import GameShelf.Proofs.Outcome
import GameShelf.Table
import Mathlib.Data.List.Forall2
import Mathlib.Tactic.Choose

/-!
# Which rows are read

A row is filled from left to right, and the first cell that is wrong ends it.  When none is, the
columns met are different ones, each cell has been read, and what was read stands in the draft
(`Filled`).  So a row is a game just if its columns are the ten, once each, and the cells under them
can be read; cells under other titles play no part.  The records of a table are read one by one.
-/

set_option autoImplicit false

namespace GameShelf

/-- The game with these entries. -/
def Game.ofContents (contents : (column : Csv.Column) → column.Content) : Game where
  name := contents (.field .name)
  id := contents .id
  minPlayers := contents (.field .minPlayers)
  maxPlayers := contents (.field .maxPlayers)
  minPlayTime := contents (.field .minPlayTime)
  maxPlayTime := contents (.field .maxPlayTime)
  difficulty := contents (.field .difficulty)
  rank := contents (.field .rank)
  rating := contents (.field .rating)
  yearPublished := contents (.field .yearPublished)

theorem Game.content_ofContents (contents : (column : Csv.Column) → column.Content)
    (column : Csv.Column) : (ofContents contents).content column = contents column := by
  cases column with
  | id => rfl
  | field f => cases f <;> rfl

namespace Csv

variable {game : Game} {draft filled : Draft} {column : Column} {index : Nat}
  {entries rest : List (Option Column × Text)} {t : Text}

/-! ## One cell -/

theorem fill_cons_eq_ok_iff :
    fill index ((some column, t) :: rest) draft = .ok filled ↔
      draft column = none ∧ ∃ content, column.kind.readCell t = .ok content ∧
        fill (index + 1) rest (draft.set column content) = .ok filled := by
  rw [fill]
  cases hdraft : draft column with
  | some content => simp
  | none =>
      cases hread : column.kind.readCell t with
      | error fault => simp
      | ok content => simp

/-- Setting a cell leaves unset those of the columns that were unset, but not its own. -/
theorem Draft.set_eq_none_iff {content : column.Content} {other : Column} :
    draft.set column content other = none ↔ column ≠ other ∧ draft other = none := by
  rcases eq_or_ne column other with rfl | hne
  · simp
  · simp [set_of_ne draft content hne, hne]

/-! ## All cells of a row -/

/-- What is so of a draft that could be filled. -/
structure Filled (entries : List (Option Column × Text)) (draft filled : Draft) : Prop where
  nodup : (entries.filterMap Prod.fst).Nodup
  unset : ∀ column ∈ entries.filterMap Prod.fst, draft column = none
  read : ∀ column t, (some column, t) ∈ entries →
    ∃ content, column.kind.readCell t = .ok content ∧ filled column = some content
  kept : ∀ column, column ∉ entries.filterMap Prod.fst → filled column = draft column

theorem Filled.cons {content : column.Content} (hunset : draft column = none)
    (hread : column.kind.readCell t = .ok content)
    (h : Filled rest (draft.set column content) filled) :
    Filled ((some column, t) :: rest) draft filled := by
  have hcolumns : ((some column, t) :: rest).filterMap Prod.fst =
      column :: rest.filterMap Prod.fst := rfl
  have hothers : ∀ other ∈ rest.filterMap Prod.fst, column ≠ other ∧ draft other = none :=
    fun other hother => Draft.set_eq_none_iff.1 (h.unset other hother)
  have hnew : column ∉ rest.filterMap Prod.fst := fun hmem => (hothers column hmem).1 rfl
  refine ⟨?_, ?_, ?_, ?_⟩
  · rw [hcolumns]
    exact List.nodup_cons.2 ⟨hnew, h.nodup⟩
  · rw [hcolumns]
    exact List.forall_mem_cons.2 ⟨hunset, fun other hother => (hothers other hother).2⟩
  · intro other u hmem
    rcases List.mem_cons.1 hmem with heq | hmem
    · -- The cells behind this one do not set its column again.
      cases heq
      exact ⟨content, hread, (h.kept column hnew).trans (Draft.set_same draft column content)⟩
    · exact h.read other u hmem
  · intro other hother
    rw [hcolumns, List.mem_cons, not_or] at hother
    rw [h.kept other hother.2, Draft.set_of_ne draft content (Ne.symm hother.1)]

theorem filled_of_fill (h : fill index entries draft = .ok filled) :
    Filled entries draft filled := by
  induction entries generalizing index draft with
  | nil =>
      cases h
      exact ⟨List.nodup_nil, by simp, by simp, fun _ _ => rfl⟩
  | cons entry rest ih =>
      rcases entry with ⟨_ | column, t⟩
      · -- A cell under another title sets nothing.
        have hskipped : fill (index + 1) rest draft = .ok filled := h
        have hrest := ih hskipped
        refine ⟨hrest.nodup, hrest.unset, ?_, hrest.kept⟩
        intro column u hmem
        rcases List.mem_cons.1 hmem with heq | hmem
        · cases heq
        · exact hrest.read column u hmem
      · rcases fill_cons_eq_ok_iff.1 h with ⟨hunset, content, hread, hrest⟩
        exact (ih hrest).cons hunset hread

/-- Nothing else can be wrong with the cells of a row. -/
theorem exists_fill (hnodup : (entries.filterMap Prod.fst).Nodup)
    (hunset : ∀ column ∈ entries.filterMap Prod.fst, draft column = none)
    (hread : ∀ column t, (some column, t) ∈ entries →
      ∃ content, column.kind.readCell t = .ok content) (index : Nat) :
    ∃ filled, fill index entries draft = .ok filled := by
  induction entries generalizing index draft with
  | nil => exact ⟨draft, rfl⟩
  | cons entry rest ih =>
      have hread' : ∀ column t, (some column, t) ∈ rest →
          ∃ content, column.kind.readCell t = .ok content :=
        fun column t ht => hread column t (List.mem_cons_of_mem entry ht)
      rcases entry with ⟨_ | column, t⟩
      · exact ih hnodup hunset hread' (index + 1)
      · rcases List.nodup_cons.1 hnodup with ⟨hnew, hnodup⟩
        rcases List.forall_mem_cons.1 hunset with ⟨hfree, hunset⟩
        rcases hread column t List.mem_cons_self with ⟨content, hcontent⟩
        have hunset' : ∀ other ∈ rest.filterMap Prod.fst,
            draft.set column content other = none := by
          intro other hother
          refine Draft.set_eq_none_iff.2 ⟨?_, hunset other hother⟩
          rintro rfl
          exact hnew hother
        rcases ih hnodup hunset' hread' (index + 1) with ⟨filled, hfilled⟩
        exact ⟨filled, fill_cons_eq_ok_iff.2 ⟨hfree, content, hcontent, hfilled⟩⟩

/-! ## Games -/

theorem Draft.require_eq_ok_iff {content : column.Content} :
    draft.require column = .ok content ↔ draft column = some content := by
  rw [require]
  split
  next found hfound =>
    rw [hfound]
    simp
  next hnone =>
    rw [hnone]
    simp

theorem Draft.content_of_toGame (h : draft.toGame = .ok game) (column : Column) :
    draft column = some (game.content column) := by
  simp only [toGame, bind_eq_ok_iff, require_eq_ok_iff] at h
  rcases h with ⟨name, hname, id, hid, minPlayers, hminPlayers, maxPlayers, hmaxPlayers,
    minPlayTime, hminTime, maxPlayTime, hmaxTime, difficulty, hdifficulty, rank, hrank,
    rating, hrating, yearPublished, hyear, hgame⟩
  cases hgame
  cases column with
  | id => exact hid
  | field f =>
      cases f with
      | name => exact hname
      | minPlayers => exact hminPlayers
      | maxPlayers => exact hmaxPlayers
      | minPlayTime => exact hminTime
      | maxPlayTime => exact hmaxTime
      | difficulty => exact hdifficulty
      | rank => exact hrank
      | rating => exact hrating
      | yearPublished => exact hyear

/-- A complete draft is the game. -/
theorem Draft.toGame_of_complete (h : ∀ column, draft column = some (game.content column)) :
    draft.toGame = .ok game := by
  have heq : draft = fun column => some (game.content column) := funext h
  rw [heq]
  rfl

theorem Draft.exists_toGame (h : ∀ column, ∃ content, draft column = some content) :
    ∃ game, draft.toGame = .ok game := by
  choose contents hcontents using h
  refine ⟨.ofContents contents, toGame_of_complete fun column => ?_⟩
  rw [hcontents, Game.content_ofContents]

namespace Header

variable {header : Header} {cells : List Text}

theorem game_eq_ok_iff :
    header.game cells = .ok game ↔ ∃ draft,
      fill 0 (header.columns.zip cells) .empty = .ok draft ∧ draft.toGame = .ok game := by
  simp only [Header.game, bind_eq_ok_iff, mapError_eq_ok_iff]

/-- The cell under a column is read as what the game has there. -/
theorem readCell_of_game (h : header.game cells = .ok game)
    (hmem : (some column, t) ∈ header.columns.zip cells) :
    column.kind.readCell t = .ok (game.content column) := by
  rcases game_eq_ok_iff.1 h with ⟨draft, hfill, hgame⟩
  rcases (filled_of_fill hfill).read column t hmem with ⟨content, hread, hcontent⟩
  have hsame := hcontent.symm.trans (Draft.content_of_toGame hgame column)
  rw [hread, Option.some.inj hsame]

/-- A row is read if its columns are the ten, once each, and the cells under them can be. -/
theorem exists_game_iff :
    (∃ game, header.game cells = .ok game) ↔
      ((header.columns.zip cells).filterMap Prod.fst).Perm Column.all ∧
        ∀ column t, (some column, t) ∈ header.columns.zip cells →
          ∃ content, column.kind.readCell t = .ok content := by
  constructor
  · rintro ⟨game, hgame⟩
    refine ⟨?_, fun column t hmem => ⟨_, readCell_of_game hgame hmem⟩⟩
    rcases game_eq_ok_iff.1 hgame with ⟨draft, hfill, hdraft⟩
    have hfilled := filled_of_fill hfill
    refine (List.perm_ext_iff_of_nodup hfilled.nodup (by decide)).2 fun column => ?_
    refine iff_of_true ?_ column.mem_all
    -- A column that is not among them would be missing.
    by_contra hmissing
    have hcontent := Draft.content_of_toGame hdraft column
    rw [hfilled.kept column hmissing] at hcontent
    cases hcontent
  · rintro ⟨hperm, hread⟩
    have hnodup : ((header.columns.zip cells).filterMap Prod.fst).Nodup :=
      hperm.nodup_iff.2 (by decide)
    rcases exists_fill hnodup (fun _ _ => rfl) hread 0 with ⟨draft, hfill⟩
    have hcomplete : ∀ column, ∃ content, draft column = some content := by
      intro column
      rcases List.mem_filterMap.1 (hperm.mem_iff.2 column.mem_all) with ⟨⟨_, t⟩, hmem, rfl⟩
      rcases (filled_of_fill hfill).read column t hmem with ⟨content, -, hcontent⟩
      exact ⟨content, hcontent⟩
    rcases Draft.exists_toGame hcomplete with ⟨game, hgame⟩
    exact ⟨game, game_eq_ok_iff.2 ⟨draft, hfill, hgame⟩⟩

/-- Loading is all or nothing, record by record. -/
theorem readRecords_eq_ok_iff {records : List Record} {games : List Game} :
    header.readRecords records = .ok games ↔
      List.Forall₂ (fun record game => header.readFields record.fields = .ok game) records
        games := by
  induction records generalizing games with
  | nil => rw [List.forall₂_nil_left_iff, readRecords, Except.ok.injEq, eq_comm]
  | cons record rest ih =>
      simp only [List.forall₂_cons_left_iff, readRecords, readRecord, bind_eq_ok_iff,
        mapError_eq_ok_iff, ih]
      constructor
      · rintro ⟨game, hgame, others, hothers, heq⟩
        cases heq
        exact ⟨game, others, hgame, hothers, rfl⟩
      · rintro ⟨game, others, hgame, hothers, rfl⟩
        exact ⟨game, hgame, others, hothers, rfl⟩

end Header
end Csv
end GameShelf
