import GameShelf.Proofs.Csv.Concatenation
import GameShelf.Proofs.Utf8

/-!
# The records of a text

The scanner reads bytes, but what it makes of a text are texts: the bytes at which it cuts are ASCII
characters, and no byte of another character is one of those.  So the bytes of a character stay
together, and between two characters of the text all fields are texts (`Scan.Textual.after_char`).
-/

set_option autoImplicit false

namespace GameShelf.Csv

/-- The bytes are those of a text. -/
def Textual (bytes : Bytes) : Prop :=
  ∃ t, Utf8.encode t = bytes

theorem textual_encode (t : Text) : Textual (Utf8.encode t) :=
  ⟨t, rfl⟩

theorem Textual.append_encodeChar {bytes : Bytes} (h : Textual bytes) (c : Char) :
    Textual (bytes ++ Utf8.encodeChar c) := by
  rcases h with ⟨t, rfl⟩
  exact ⟨t ++ [c], by simp⟩

/-- What follows a character in a text is a text. -/
theorem Textual.of_encodeChar_append {c : Char} {bytes : Bytes}
    (h : Textual (Utf8.encodeChar c ++ bytes)) : Textual bytes := by
  rcases h with ⟨t, heq⟩
  have hdecode := Utf8.decode_encode t
  rw [heq, Utf8.decode_encodeChar_append, Utf8.prepend_eq_ok_iff] at hdecode
  rcases hdecode with ⟨rest, hrest, -⟩
  exact ⟨rest, Utf8.encode_of_decode hrest⟩

namespace Scan

/-- All fields are texts, as far as they have been read. -/
structure Textual (s : Scan) : Prop where
  field_textual : Csv.Textual s.field.reverse
  fields_textual : ∀ field ∈ s.fields, Csv.Textual field
  records_textual : ∀ record ∈ s.records, ∀ field ∈ record.fields, Csv.Textual field

variable {s : Scan} {b : UInt8} {c : Char}

theorem textual_initial (skipped : Nat) : (initial skipped).Textual :=
  ⟨textual_encode [], by simp [initial], by simp [initial]⟩

/-! ## ASCII characters -/

theorem Textual.count (h : s.Textual) (b : UInt8) : (s.count b).Textual :=
  ⟨h.field_textual, h.fields_textual, h.records_textual⟩

theorem Textual.withMode (h : s.Textual) (mode : Mode) : { s with mode := mode }.Textual :=
  ⟨h.field_textual, h.fields_textual, h.records_textual⟩

theorem Textual.keep (h : s.Textual) (hb : Utf8.encodeChar c = [b]) (mode : Mode) :
    (s.keep b mode).Textual := by
  refine ⟨?_, h.fields_textual, h.records_textual⟩
  have happend := h.field_textual.append_encodeChar c
  rw [hb] at happend
  simpa [Scan.keep] using happend

theorem Textual.of_mem (h : s.Textual) {field : Bytes}
    (hfield : field ∈ s.field.reverse :: s.fields) : Csv.Textual field := by
  rcases List.mem_cons.1 hfield with rfl | hmem
  · exact h.field_textual
  · exact h.fields_textual field hmem

theorem Textual.endField (h : s.Textual) : s.endField.Textual :=
  ⟨textual_encode [], fun _ hfield => h.of_mem hfield, h.records_textual⟩

theorem Textual.endRecord (h : s.Textual) : s.endRecord.Textual := by
  refine ⟨textual_encode [], by simp [Scan.endRecord], ?_⟩
  intro record hrecord field hfield
  rcases List.mem_cons.1 hrecord with rfl | hmem
  · exact h.of_mem (List.mem_reverse.1 hfield)
  · exact h.records_textual record hmem field hfield

/-- A character of one byte may be kept or end a field. -/
theorem Textual.step (h : s.Textual) (hb : Utf8.encodeChar c = [b]) : (s.step b).Textual := by
  have hcount := h.count b
  have htakes := s.takes_step b
  generalize s.step b = next at htakes ⊢
  cases htakes with
  | skip => exact hcount
  | quote _ mode => exact hcount.withMode mode
  | keep mode => exact hcount.keep hb mode
  | endField => exact hcount.endField
  | endRecord => exact hcount.endRecord

/-! ## Other characters -/

/-- A byte that is no ASCII character belongs to the field, whatever the mode. -/
theorem step_of_le (hb : 0x80 ≤ b.toNat) : ∃ mode, s.step b = (s.count b).keep b mode := by
  have hline : isLineEnd b = false := by
    simp only [isLineEnd, Bool.or_eq_false_iff, beq_eq_false_iff_ne]
    constructor
    · rintro rfl
      exact absurd hb (by decide)
    · rintro rfl
      exact absurd hb (by decide)
  have htakes := s.takes_step b
  generalize s.step b = next at htakes ⊢
  cases htakes with
  | skip _ hend => simp [hline] at hend
  | quote hquote =>
      rw [hquote] at hb
      exact absurd hb (by decide)
  | keep mode => exact ⟨mode, rfl⟩
  | endField hcomma =>
      rw [hcomma] at hb
      exact absurd hb (by decide)
  | endRecord hend => simp [hline] at hend

theorem foldl_step_of_le {bytes : Bytes} (hbytes : ∀ b ∈ bytes, 0x80 ≤ b.toNat) :
    (bytes.foldl step s).field = bytes.reverse ++ s.field ∧
      (bytes.foldl step s).fields = s.fields ∧ (bytes.foldl step s).records = s.records := by
  induction bytes generalizing s with
  | nil => exact ⟨rfl, rfl, rfl⟩
  | cons b rest ih =>
      rcases step_of_le (s := s) (hbytes b List.mem_cons_self) with ⟨mode, hstep⟩
      have hrest := ih (s := s.step b) fun b' hb' => hbytes b' (List.mem_cons_of_mem b hb')
      rw [hstep] at hrest
      simpa [hstep, Scan.keep, Scan.count] using hrest

/-! ## Texts -/

/-- The bytes of a character stay together. -/
theorem Textual.after_char (h : s.Textual) (c : Char) :
    ((Utf8.encodeChar c).foldl Scan.step s).Textual := by
  -- An ASCII character is one byte, and of the others no byte is special.
  rcases Nat.lt_or_ge c.toNat 0x80 with hascii | hbeyond
  · have hbyte := Utf8.encodeChar_of_lt hascii
    rw [hbyte]
    exact h.step hbyte
  · have hbytes : ∀ b ∈ Utf8.encodeChar c, 0x80 ≤ b.toNat :=
      fun _ hb => Utf8.le_toNat_of_mem_encodeChar hbeyond hb
    rcases foldl_step_of_le (s := s) hbytes with ⟨hfield, hfields, hrecords⟩
    refine ⟨?_, ?_, ?_⟩
    · rw [hfield, List.reverse_append, List.reverse_reverse]
      exact h.field_textual.append_encodeChar c
    · rw [hfields]
      exact h.fields_textual
    · rw [hrecords]
      exact h.records_textual

theorem Textual.after (h : s.Textual) (t : Text) :
    ((Utf8.encode t).foldl Scan.step s).Textual := by
  induction t generalizing s with
  | nil => exact h
  | cons c rest ih =>
      rw [Utf8.encode_cons, List.foldl_append]
      exact ih (h.after_char c)

theorem Textual.finish (h : s.Textual) {record : Record} (hrecord : record ∈ s.finish)
    {field : Bytes} (hfield : field ∈ record.fields) : Csv.Textual field := by
  unfold Scan.finish at hrecord
  split at hrecord
  · exact h.records_textual record (List.mem_reverse.1 hrecord) field hfield
  · exact h.endRecord.records_textual record (List.mem_reverse.1 hrecord) field hfield

end Scan

/-- The byte order mark is a character, so a text remains behind it. -/
theorem textual_drop_markLength {bytes : Bytes} (h : Textual bytes) :
    Textual (bytes.drop (markLength bytes)) := by
  rw [markLength]
  split
  next hmark =>
    rcases List.isPrefixOf_iff_prefix.1 hmark with ⟨rest, rfl⟩
    rw [List.drop_left]
    have hchar : Utf8.encodeChar '\uFEFF' = byteOrderMark := by decide
    rw [← hchar] at h
    exact h.of_encodeChar_append
  next => exact h

theorem textual_of_mem_records {bytes : Bytes} (h : Textual bytes) {record : Record}
    (hrecord : record ∈ records bytes) {field : Bytes} (hfield : field ∈ record.fields) :
    Textual field := by
  rw [records_eq_finish] at hrecord
  rcases textual_drop_markLength h with ⟨t, heq⟩
  rw [← heq] at hrecord
  exact ((Scan.textual_initial _).after t).finish hrecord hfield

end GameShelf.Csv
