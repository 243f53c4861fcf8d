import GameShelf.Proofs.Csv.Filling
import GameShelf.Proofs.Text.Pieces
import GameShelf.Proofs.Utf8
import GameShelf.Table

/-!
# Where the entries of loaded games come from

Each entry of a game that was loaded has been read from a cell of some record of the table.  The
way back goes through the stages of loading: the entries of a game are read from cells, cells are
the trimmed texts of fields, and fields belong to records.

The names are the entries that a user meets again.  They are read as they stand in the cells, so a
loaded name has no white space at its ends, whether the table has a header that can be read or not.
-/

set_option autoImplicit false

namespace GameShelf

namespace Csv

variable {game : Game} {games : List Game} {header : Header}

/-! ## From records to games -/

theorem Header.exists_record_of_mem {records : List Record}
    (h : header.readRecords records = .ok games) (hgame : game ∈ games) :
    ∃ record ∈ records, header.readFields record.fields = .ok game := by
  have hread := readRecords_eq_ok_iff.1 h
  clear h
  induction hread with
  | nil => cases hgame
  | @cons record first rest others hfirst _ ih =>
      rcases List.mem_cons.1 hgame with rfl | hmem
      · exact ⟨record, List.mem_cons_self, hfirst⟩
      · rcases ih hmem with ⟨source, hsource, hread⟩
        exact ⟨source, List.mem_cons_of_mem record hsource, hread⟩

/-! ## From fields to cells -/

theorem exists_field_of_mem_decodeFields {index : Nat} {fields : List Bytes} {cells : List Text}
    (h : decodeFields index fields = .ok cells) {cell : Text} (hcell : cell ∈ cells) :
    ∃ field ∈ fields, ∃ t, Utf8.decode (trimBytes field) = .ok t ∧ cell = t.trim := by
  induction fields generalizing index cells with
  | nil =>
      cases h
      cases hcell
  | cons field rest ih =>
      rw [decodeFields] at h
      cases hdecode : Utf8.decode (trimBytes field) with
      | error valid =>
          rw [hdecode] at h
          cases h
      | ok t =>
          rw [hdecode] at h
          rcases map_eq_ok_iff.1 h with ⟨others, hothers, rfl⟩
          rcases List.mem_cons.1 hcell with rfl | hmem
          · exact ⟨field, List.mem_cons_self, t, hdecode, rfl⟩
          · rcases ih hothers hmem with ⟨source, hsource, hread⟩
            exact ⟨source, List.mem_cons_of_mem field hsource, hread⟩

/-! ## From cells to games -/

theorem Header.exists_cell_of_game {cells : List Text} (h : header.game cells = .ok game)
    (column : Column) : ∃ t ∈ cells, column.kind.readCell t = .ok (game.content column) := by
  have hmem := (exists_game_iff.1 ⟨game, h⟩).1.mem_iff.2 column.mem_all
  rcases List.mem_filterMap.1 hmem with ⟨⟨_, t⟩, hentry, rfl⟩
  exact ⟨t, (List.of_mem_zip hentry).2, readCell_of_game h hentry⟩

theorem Header.exists_field_of_readFields {fields : List Bytes}
    (h : header.readFields fields = .ok game) (column : Column) :
    ∃ field ∈ fields, ∃ t, Utf8.decode (trimBytes field) = .ok t ∧
      column.kind.readCell t.trim = .ok (game.content column) := by
  rw [readFields] at h
  split at h
  · rcases bind_eq_ok_iff.1 h with ⟨cells, hcells, hgame⟩
    rcases exists_cell_of_game hgame column with ⟨cell, hcell, hread⟩
    rcases exists_field_of_mem_decodeFields hcells hcell with ⟨field, hfield, t, ht, rfl⟩
    exact ⟨field, hfield, t, ht, hread⟩
  · cases h

end Csv

/-! ## Loaded games -/

namespace Table

variable {bytes : Bytes} {games : List Game} {game : Game}

/-- A header line with every column once, in the order of the record. -/
def header : Text :=
  [','].intercalate (Csv.Column.all.map (·.name.toList)) ++ ['\n']

/-- Each entry of a loaded game has been read from a field of the table. -/
theorem exists_field_of_load (h : load bytes = .ok games) (hgame : game ∈ games)
    (column : Csv.Column) :
    ∃ record ∈ Csv.records bytes, ∃ field ∈ record.fields, ∃ t,
      Utf8.decode (Csv.trimBytes field) = .ok t ∧
        column.kind.readCell t.trim = .ok (game.content column) := by
  have hload : Csv.loadGames bytes = .ok games := mapError_eq_ok_iff.1 h
  rw [Csv.loadGames] at hload
  cases hrecords : Csv.records bytes with
  | nil =>
      rw [hrecords] at hload
      cases hload
      cases hgame
  | cons header rows =>
      rw [hrecords] at hload
      rcases Csv.Header.exists_record_of_mem hload hgame with ⟨record, hrecord, hread⟩
      exact ⟨record, List.mem_cons_of_mem header hrecord,
        Csv.Header.exists_field_of_readFields hread column⟩

theorem exists_field_name_of_load (h : load bytes = .ok games) (hgame : game ∈ games) :
    ∃ record ∈ Csv.records bytes, ∃ field ∈ record.fields, ∃ t,
      Utf8.decode (Csv.trimBytes field) = .ok t ∧ game.name = t.trim := by
  rcases exists_field_of_load h hgame (.field .name) with
    ⟨record, hrecord, field, hfield, t, ht, hread⟩
  -- A cell of a text column is its content.
  have hname : t.trim = game.name := Except.ok.inj hread
  exact ⟨record, hrecord, field, hfield, t, ht, hname.symm⟩

theorem trim_name_of_load (h : load bytes = .ok games) (hgame : game ∈ games) :
    game.name.trim = game.name := by
  rcases exists_field_name_of_load h hgame with ⟨_, -, _, -, t, -, hname⟩
  rw [hname, Text.trim_trim]

end Table
end GameShelf
