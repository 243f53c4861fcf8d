import GameShelf.Proofs.Csv.Provenance

/-!
# Tables without quotes

Only quotes can put a comma or a line end into a field.  In a text without quotes the scanner never
enters a quoted field, and all that it holds are fields on one line: no byte leads out of that state
(`Scan.Unquoted.step`), so no text does.  The names that are loaded from such a table are then on
one line, too.
-/

set_option autoImplicit false

namespace GameShelf

namespace Csv

/-- No byte ends a line. -/
def OneLine (bytes : Bytes) : Prop :=
  ∀ b ∈ bytes, isLineEnd b = false

namespace Scan

/-- The scanner is outside quotes and all its fields are on one line. -/
structure Unquoted (s : Scan) : Prop where
  mode_ne_quoted : s.mode ≠ .quoted
  mode_ne_quoteSeen : s.mode ≠ .quoteSeen
  field_oneLine : OneLine s.field
  fields_oneLine : ∀ field ∈ s.fields, OneLine field
  records_oneLine : ∀ record ∈ s.records, ∀ field ∈ record.fields, OneLine field

variable {s : Scan} {b : UInt8}

theorem unquoted_initial (skipped : Nat) : (initial skipped).Unquoted := by
  constructor <;> simp [initial, OneLine]

/-! ## One byte -/

theorem Unquoted.count (h : s.Unquoted) (b : UInt8) : (s.count b).Unquoted :=
  ⟨h.mode_ne_quoted, h.mode_ne_quoteSeen, h.field_oneLine, h.fields_oneLine, h.records_oneLine⟩

/-- The open field is one of the finished ones from now on. -/
theorem Unquoted.oneLine_of_mem (h : s.Unquoted) {field : Bytes}
    (hfield : field ∈ s.field.reverse :: s.fields) : OneLine field := by
  rcases List.mem_cons.1 hfield with rfl | hmem
  · intro b hb
    exact h.field_oneLine b (List.mem_reverse.1 hb)
  · exact h.fields_oneLine field hmem

theorem Unquoted.endField (h : s.Unquoted) : s.endField.Unquoted := by
  refine ⟨?_, ?_, ?_, ?_, h.records_oneLine⟩
  · simp [Scan.endField]
  · simp [Scan.endField]
  · simp [Scan.endField, OneLine]
  · intro field hfield
    exact h.oneLine_of_mem hfield

theorem Unquoted.endRecord (h : s.Unquoted) : s.endRecord.Unquoted := by
  refine ⟨?_, ?_, ?_, ?_, ?_⟩
  · simp [Scan.endRecord]
  · simp [Scan.endRecord]
  · simp [Scan.endRecord, OneLine]
  · simp [Scan.endRecord]
  · intro record hrecord field hfield
    rcases List.mem_cons.1 hrecord with rfl | hmem
    · exact h.oneLine_of_mem (List.mem_reverse.1 hfield)
    · exact h.records_oneLine record hmem field hfield

theorem Unquoted.takePlain (h : s.Unquoted) (b : UInt8) : (s.takePlain b).Unquoted := by
  unfold Scan.takePlain
  split
  · exact h.endField
  · split
    · exact h.endRecord
    next hline =>
      -- The byte goes into the open field, and it is no line end.
      refine ⟨by simp [keep], by simp [keep], ?_, h.fields_oneLine, h.records_oneLine⟩
      intro c hc
      rcases List.mem_cons.1 hc with rfl | hmem
      · simpa using hline
      · exact h.field_oneLine c hmem

theorem Unquoted.takeFirst (h : s.Unquoted) (hb : b ≠ quote) : (s.takeFirst b).Unquoted := by
  simpa [Scan.takeFirst, hb] using h.takePlain b

/-- A byte that is no quote does not lead into a quoted field. -/
theorem Unquoted.step (h : s.Unquoted) (hb : b ≠ quote) : (s.step b).Unquoted := by
  have hcount := h.count b
  unfold Scan.step
  cases hmode : (s.count b).mode with
  | between =>
      simp only [hmode]
      split
      · exact hcount
      · exact hcount.takeFirst hb
  | fieldStart =>
      simpa only [hmode] using hcount.takeFirst hb
  | plain =>
      simpa only [hmode] using hcount.takePlain b
  | quoted => exact absurd hmode hcount.mode_ne_quoted
  | quoteSeen => exact absurd hmode hcount.mode_ne_quoteSeen

/-! ## A whole text -/

theorem Unquoted.foldl (h : s.Unquoted) {bytes : Bytes} (hbytes : quote ∉ bytes) :
    (bytes.foldl Scan.step s).Unquoted := by
  induction bytes generalizing s with
  | nil => exact h
  | cons b rest ih =>
      rw [List.mem_cons, not_or] at hbytes
      exact ih (h.step (Ne.symm hbytes.1)) hbytes.2

theorem Unquoted.finish (h : s.Unquoted) {record : Record} (hrecord : record ∈ s.finish)
    {field : Bytes} (hfield : field ∈ record.fields) : OneLine field := by
  unfold Scan.finish at hrecord
  -- The record that is open at the end, if any, is ended first.
  split at hrecord
  · exact h.records_oneLine record (List.mem_reverse.1 hrecord) field hfield
  · exact h.endRecord.records_oneLine record (List.mem_reverse.1 hrecord) field hfield

end Scan

theorem oneLine_of_mem_records {bytes : Bytes} (hbytes : quote ∉ bytes) {record : Record}
    (hrecord : record ∈ records bytes) {field : Bytes} (hfield : field ∈ record.fields) :
    OneLine field := by
  unfold records at hrecord
  split at hrecord
  · have hrest : quote ∉ bytes.drop byteOrderMark.length :=
      fun hmem => hbytes ((List.drop_sublist _ bytes).mem hmem)
    exact ((Scan.unquoted_initial _).foldl hrest).finish hrecord hfield
  · exact ((Scan.unquoted_initial _).foldl hbytes).finish hrecord hfield

theorem trimBytes_sublist (field : Bytes) : (trimBytes field).Sublist field := by
  have hend := (List.dropWhile_sublist isAsciiBlank
    (l := (field.dropWhile isAsciiBlank).reverse)).reverse
  rw [List.reverse_reverse] at hend
  exact hend.trans (List.dropWhile_sublist isAsciiBlank)

end Csv

/-- The names of a table without quotes hold no line feed. -/
theorem Table.lineFeed_not_mem_name {bytes : Bytes} {games : List Game} {game : Game}
    (hload : load bytes = .ok games) (hgame : game ∈ games) (hbytes : Csv.quote ∉ bytes) :
    '\n' ∉ game.name := by
  intro hmem
  rcases exists_field_name_of_load hload hgame with
    ⟨record, hrecord, field, hfield, t, hdecode, hname⟩
  -- Back from the name to the text of its cell, and from there to the bytes of its field.
  have htext : '\n' ∈ t := by
    rw [hname] at hmem
    exact (Text.trim_sublist t).mem hmem
  have hbyte : Csv.lineFeed ∈ Csv.trimBytes field := by
    rw [← Utf8.encode_of_decode hdecode]
    exact Utf8.mem_encode_of_mem htext (by decide)
  have hline := Csv.oneLine_of_mem_records hbytes hrecord hfield Csv.lineFeed
    ((Csv.trimBytes_sublist field).mem hbyte)
  cases hline

end GameShelf
