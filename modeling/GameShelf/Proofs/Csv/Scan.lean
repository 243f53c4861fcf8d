import GameShelf.Csv.Sheet
import GameShelf.Proofs.Utf8

/-!
# Scanning quoted records

What the scanner knows, apart from where it is in the text: its mode, the bytes of the open field,
the fields of the open record and the records that are finished.  `Scan.At` says what these four
are.  There is one lemma for each kind of byte that quoted records are made of; a field, a record
and a whole text are runs of such bytes.

`Scan.Takes` lists the five things that a byte can do, in whatever mode.
-/

set_option autoImplicit false

namespace GameShelf.Csv

namespace Scan

/-! ## What a byte can do -/

/-- The scans that a byte may lead to, once it has been counted. -/
inductive Takes (s : Scan) (b : UInt8) : Scan → Prop where
  | skip (hmode : s.mode = .between) (hb : isLineEnd b = true) : Takes s b s
  | quote (hb : b = quote) (mode : Mode) (hmode : mode ≠ .between) :
    Takes s b { s with mode := mode }
  | keep (mode : Mode) (hmode : mode ≠ .between) : Takes s b (s.keep b mode)
  | endField (hb : b = comma) : Takes s b s.endField
  | endRecord (hb : isLineEnd b = true) : Takes s b s.endRecord

theorem takes_takePlain (s : Scan) (b : UInt8) : s.Takes b (s.takePlain b) := by
  unfold takePlain
  split
  next hb => exact .endField (beq_iff_eq.1 hb)
  next =>
    split
    next hb => exact .endRecord hb
    next => exact .keep .plain (by decide)

theorem takes_takeFirst (s : Scan) (b : UInt8) : s.Takes b (s.takeFirst b) := by
  unfold takeFirst
  split
  next hb => exact .quote (beq_iff_eq.1 hb) .quoted (by decide)
  next => exact s.takes_takePlain b

theorem takes_step (s : Scan) (b : UInt8) : (s.count b).Takes b (s.step b) := by
  unfold step
  cases hmode : (s.count b).mode with
  | between =>
      simp only [hmode]
      split
      next hb => exact .skip hmode hb
      next => exact (s.count b).takes_takeFirst b
  | fieldStart => simpa only [hmode] using (s.count b).takes_takeFirst b
  | plain => simpa only [hmode] using (s.count b).takes_takePlain b
  | quoted =>
      simp only [hmode]
      split
      next hb => exact .quote (beq_iff_eq.1 hb) .quoteSeen (by decide)
      next => exact .keep .quoted (by decide)
  | quoteSeen =>
      simp only [hmode]
      split
      next => exact .keep .quoted (by decide)
      next => exact (s.count b).takes_takePlain b

/-! ## What the scanner holds -/

/-- What the scanner holds, without positions. -/
structure At (s : Scan) (mode : Mode) (field : Bytes) (fields : List Bytes)
    (records : List (List Bytes)) : Prop where
  mode_eq : s.mode = mode
  field_eq : s.field = field
  fields_eq : s.fields = fields
  records_eq : s.records.map Record.fields = records

variable {s : Scan} {mode : Mode} {field : Bytes} {fields : List Bytes}
  {records : List (List Bytes)} {b : UInt8}

/-! ## One byte -/

/-- A byte is counted before it is looked at. -/
theorem At.count (h : s.At mode field fields records) (b : UInt8) :
    (s.count b).At mode field fields records :=
  ⟨h.mode_eq, h.field_eq, h.fields_eq, h.records_eq⟩

theorem At.endField (h : s.At mode field fields records) :
    s.endField.At .fieldStart [] (field.reverse :: fields) records := by
  refine ⟨rfl, rfl, ?_, h.records_eq⟩
  simp [Scan.endField, h.field_eq, h.fields_eq]

theorem At.endRecord (h : s.At mode field fields records) :
    s.endRecord.At .between [] [] ((field.reverse :: fields).reverse :: records) := by
  refine ⟨rfl, rfl, rfl, ?_⟩
  simp [Scan.endRecord, h.field_eq, h.fields_eq, h.records_eq]

/-- A quote opens a field, also the first one of a record. -/
theorem At.step_open (h : s.At mode [] fields records)
    (hmode : mode = .between ∨ mode = .fieldStart) :
    (s.step quote).At .quoted [] fields records := by
  have hcount := h.count quote
  have hline : isLineEnd quote = false := by decide
  rcases hmode with rfl | rfl
  · simp only [step, hcount.mode_eq, hline]
    exact ⟨rfl, hcount.field_eq, hcount.fields_eq, hcount.records_eq⟩
  · simp only [step, hcount.mode_eq]
    exact ⟨rfl, hcount.field_eq, hcount.fields_eq, hcount.records_eq⟩

/-- Within quotes every byte but a quote belongs to the field. -/
theorem At.step_quoted (h : s.At .quoted field fields records) (hb : b ≠ quote) :
    (s.step b).At .quoted (b :: field) fields records := by
  have hcount := h.count b
  simp only [step, hcount.mode_eq, beq_iff_eq, hb, if_false]
  refine ⟨rfl, ?_, hcount.fields_eq, hcount.records_eq⟩
  simp [keep, hcount.field_eq]

/-- A quote within quotes waits for the next byte. -/
theorem At.step_quote (h : s.At .quoted field fields records) :
    (s.step quote).At .quoteSeen field fields records := by
  have hcount := h.count quote
  simp only [step, hcount.mode_eq, beq_self_eq_true, if_true]
  exact ⟨rfl, hcount.field_eq, hcount.fields_eq, hcount.records_eq⟩

/-- A second quote makes the two of them one quote of the field. -/
theorem At.step_doubled (h : s.At .quoteSeen field fields records) :
    (s.step quote).At .quoted (quote :: field) fields records := by
  have hcount := h.count quote
  simp only [step, hcount.mode_eq, beq_self_eq_true, if_true]
  refine ⟨rfl, ?_, hcount.fields_eq, hcount.records_eq⟩
  simp [keep, hcount.field_eq]

/-- A comma behind a quote ends the field. -/
theorem At.step_comma (h : s.At .quoteSeen field fields records) :
    (s.step comma).At .fieldStart [] (field.reverse :: fields) records := by
  have hcount := h.count comma
  have hquote : (comma == quote) = false := by decide
  simp only [step, hcount.mode_eq, hquote, takePlain, beq_self_eq_true, if_true]
  exact hcount.endField

/-- A line end behind a quote ends the record. -/
theorem At.step_lineEnd (h : s.At .quoteSeen field fields records) (hb : isLineEnd b = true) :
    (s.step b).At .between [] [] ((field.reverse :: fields).reverse :: records) := by
  have hcount := h.count b
  have hbytes : b = lineFeed ∨ b = carriageReturn := by
    simpa [isLineEnd] using hb
  have hquote : (b == quote) = false := by
    rcases hbytes with rfl | rfl <;> decide
  have hcomma : (b == comma) = false := by
    rcases hbytes with rfl | rfl <;> decide
  simp only [step, hcount.mode_eq, hquote, takePlain, hcomma, hb, if_true]
  exact hcount.endRecord

/-- A line without any byte is no record. -/
theorem At.step_emptyLine (h : s.At .between field fields records) (hb : isLineEnd b = true) :
    (s.step b).At .between field fields records := by
  have hcount := h.count b
  simp only [step, hcount.mode_eq, hb, if_true]
  exact hcount

/-! ## A field -/

/-- The scan after a text. -/
def after (s : Scan) (t : Text) : Scan :=
  (Utf8.encode t).foldl step s

@[simp] theorem after_nil (s : Scan) : s.after [] = s := rfl

@[simp] theorem after_append (s : Scan) (t u : Text) : s.after (t ++ u) = (s.after t).after u := by
  simp [after]

theorem after_quote (s : Scan) : s.after ['"'] = s.step quote := rfl

/-- Bytes without a quote, within quotes. -/
theorem At.foldl_quoted (h : s.At .quoted field fields records) {bytes : Bytes}
    (hbytes : quote ∉ bytes) :
    (bytes.foldl step s).At .quoted (bytes.reverse ++ field) fields records := by
  induction bytes generalizing s field with
  | nil => exact h
  | cons b rest ih =>
      have hb : b ≠ quote := by
        intro heq
        exact hbytes (by simp [heq])
      have hrest : quote ∉ rest := fun hmem => hbytes (List.mem_cons_of_mem b hmem)
      have hstep := ih (h.step_quoted hb) hrest
      simpa using hstep

/-- Only the quote has the byte of a quote. -/
theorem quote_not_mem_encodeChar {c : Char} (hc : c ≠ '"') : quote ∉ Utf8.encodeChar c := by
  intro hmem
  by_cases hascii : c.toNat < 0x80
  · rw [Utf8.encodeChar_of_lt hascii, List.mem_singleton] at hmem
    have hnat : quote.toNat = c.toNat := by
      rw [hmem, Utf8.toNat_ofNat (by omega)]
    exact hc (Char.toNat_inj.1 hnat.symm)
  · have hle : 0x80 ≤ quote.toNat := Utf8.le_toNat_of_mem_encodeChar (by omega) hmem
    exact absurd hle (by decide)

/-- A character within quotes, whether it is doubled or not. -/
theorem At.after_doubled (h : s.At .quoted field fields records) (c : Char) :
    (s.after (doubled c)).At .quoted ((Utf8.encodeChar c).reverse ++ field) fields records := by
  by_cases hc : c = '"'
  · subst hc
    have hwritten : doubled '"' = ['"'] ++ ['"'] := rfl
    rw [hwritten, after_append, after_quote, after_quote]
    exact h.step_quote.step_doubled
  · have hwritten : s.after (doubled c) = (Utf8.encodeChar c).foldl step s := by
      simp [doubled, hc, after]
    rw [hwritten]
    exact h.foldl_quoted (quote_not_mem_encodeChar hc)

theorem At.after_flatMap_doubled (h : s.At .quoted field fields records) (t : Text) :
    (s.after (t.flatMap doubled)).At .quoted ((Utf8.encode t).reverse ++ field) fields
      records := by
  induction t generalizing s field with
  | nil => exact h
  | cons c t ih =>
      have hrest := ih (h.after_doubled c)
      simpa using hrest

/-- A field in quotes is read as the bytes of its text. -/
theorem At.after_quoted (h : s.At mode [] fields records)
    (hmode : mode = .between ∨ mode = .fieldStart) (t : Text) :
    (s.after (quoted t)).At .quoteSeen (Utf8.encode t).reverse fields records := by
  have hbody := (h.step_open hmode).after_flatMap_doubled t
  rw [List.append_nil] at hbody
  have hwritten : quoted t = ['"'] ++ (t.flatMap doubled ++ ['"']) := rfl
  rw [hwritten, after_append, after_append, after_quote, after_quote]
  exact hbody.step_quote

/-! ## A record -/

/-- The scan is behind the last field of a record with these fields. -/
def EndsRecord (s : Scan) (fields : List Bytes) (records : List (List Bytes)) : Prop :=
  ∃ field front, s.At .quoteSeen field front records ∧ (field.reverse :: front).reverse = fields

/-- A record is read as the bytes of its cells. -/
theorem At.after_written (h : s.At mode [] fields records)
    (hmode : mode = .between ∨ mode = .fieldStart) {cells : List Text} (hcells : cells ≠ []) :
    (s.after (written cells)).EndsRecord (fields.reverse ++ cells.map Utf8.encode) records := by
  induction cells generalizing s mode fields with
  | nil => exact absurd rfl hcells
  | cons cell rest ih =>
      have hcell := h.after_quoted hmode cell
      cases rest with
      | nil =>
          refine ⟨_, fields, hcell, ?_⟩
          simp
      | cons next rest =>
          have hcomma := hcell.step_comma
          have hrest := ih hcomma (Or.inr rfl) (List.cons_ne_nil next rest)
          have hwritten : written (cell :: next :: rest) =
              quoted cell ++ ([','] ++ written (next :: rest)) := rfl
          have hbyte : ∀ s : Scan, s.after [','] = s.step comma := fun _ => rfl
          rw [hwritten, after_append, after_append, hbyte]
          simpa using hrest

/-! ## Ends of records -/

theorem eq_of_mem_lineEnd {lineEnd : LineEnd} {c : Char} (hc : c ∈ lineEnd.text) :
    c = '\n' ∨ c = '\r' := by
  cases lineEnd with
  | lineFeed => exact Or.inl (List.mem_singleton.1 hc)
  | carriageReturn => exact Or.inr (List.mem_singleton.1 hc)
  | both =>
      rcases List.mem_cons.1 hc with rfl | hc
      · exact Or.inr rfl
      · exact Or.inl (List.mem_singleton.1 hc)

/-- Whatever stands behind a record ends lines. -/
theorem isLineEnd_of_mem_recordEnd {recordEnd : RecordEnd}
    (hb : b ∈ Utf8.encode recordEnd.text) : isLineEnd b = true := by
  rcases List.mem_flatMap.1 hb with ⟨c, hc, hb⟩
  have hline : c = '\n' ∨ c = '\r' := by
    rcases List.mem_append.1 hc with hc | hc
    · exact eq_of_mem_lineEnd hc
    · rcases List.mem_flatMap.1 hc with ⟨lineEnd, -, hc⟩
      exact eq_of_mem_lineEnd hc
  rcases hline with rfl | rfl
  · have hbyte : b = lineFeed := List.mem_singleton.1 hb
    rw [hbyte]
    rfl
  · have hbyte : b = carriageReturn := List.mem_singleton.1 hb
    rw [hbyte]
    rfl

theorem encode_recordEnd_ne_nil (recordEnd : RecordEnd) :
    Utf8.encode recordEnd.text ≠ [] := by
  rcases recordEnd with ⟨lineEnd, emptyLines⟩
  cases lineEnd with
  | lineFeed => exact List.cons_ne_nil _ _
  | carriageReturn => exact List.cons_ne_nil _ _
  | both => exact List.cons_ne_nil _ _

/-- Empty lines are passed over. -/
theorem At.foldl_emptyLines (h : s.At .between field fields records) {bytes : Bytes}
    (hbytes : ∀ b ∈ bytes, isLineEnd b = true) :
    (bytes.foldl step s).At .between field fields records := by
  induction bytes generalizing s with
  | nil => exact h
  | cons b rest ih =>
      refine ih (h.step_emptyLine (hbytes b List.mem_cons_self)) ?_
      intro b' hb'
      exact hbytes b' (List.mem_cons_of_mem b hb')

/-- The first line end finishes the record, and the others are empty lines. -/
theorem EndsRecord.after_recordEnd (h : s.EndsRecord fields records) (recordEnd : RecordEnd) :
    (s.after recordEnd.text).At .between [] [] (fields :: records) := by
  rcases h with ⟨field, front, hat, rfl⟩
  have hlines : ∀ b ∈ Utf8.encode recordEnd.text, isLineEnd b = true :=
    fun _ => isLineEnd_of_mem_recordEnd
  cases hbytes : Utf8.encode recordEnd.text with
  | nil => exact absurd hbytes (encode_recordEnd_ne_nil recordEnd)
  | cons b rest =>
      rw [hbytes] at hlines
      have hend := hat.step_lineEnd (hlines b List.mem_cons_self)
      have hrest := hend.foldl_emptyLines fun b' hb' => hlines b' (List.mem_cons_of_mem b hb')
      rw [after, hbytes]
      exact hrest

/-! ## The whole text -/

/-- Records, each with the end of the one in front of it. -/
theorem EndsRecord.after_records (h : s.EndsRecord fields records)
    {entries : List (RecordEnd × List Text)} (hcells : ∀ entry ∈ entries, entry.2 ≠ []) :
    ∃ fields' records',
      (s.after (entries.flatMap fun entry => entry.1.text ++ written entry.2)).EndsRecord fields'
        records' ∧
      records'.reverse ++ [fields'] =
        records.reverse ++ fields :: entries.map fun entry => entry.2.map Utf8.encode := by
  induction entries generalizing s fields records with
  | nil => exact ⟨fields, records, h, rfl⟩
  | cons entry rest ih =>
      have hend := h.after_recordEnd entry.1
      have hrecord := hend.after_written (Or.inl rfl) (hcells entry List.mem_cons_self)
      rcases ih hrecord fun entry' hmem => hcells entry' (List.mem_cons_of_mem entry hmem) with
        ⟨fields', records', hlast, heq⟩
      refine ⟨fields', records', ?_, ?_⟩
      · simpa using hlast
      · simpa using heq

/-- The end of the text ends the last record, if nothing did before. -/
theorem EndsRecord.finish_ending (h : s.EndsRecord fields records) (ending : Option RecordEnd) :
    (s.after ((ending.map RecordEnd.text).getD [])).finish.map Record.fields =
      records.reverse ++ [fields] := by
  cases ending with
  | none =>
      rcases h with ⟨field, front, hat, rfl⟩
      have hend := hat.endRecord
      change s.finish.map Record.fields = _
      simp only [finish, hat.mode_eq, List.map_reverse, hend.records_eq]
      simp
  | some recordEnd =>
      have hend := h.after_recordEnd recordEnd
      change (s.after recordEnd.text).finish.map Record.fields = _
      simp only [finish, hend.mode_eq, List.map_reverse, hend.records_eq]
      simp

theorem at_initial : (Scan.initial 0).At .between [] [] [] :=
  ⟨rfl, rfl, rfl, rfl⟩

end Scan

/-- A record of quoted fields begins with a quote. -/
theorem exists_written_eq_cons {cells : List Text} (hcells : cells ≠ []) :
    ∃ rest, written cells = '"' :: rest := by
  match cells, hcells with
  | [_], _ => exact ⟨_, rfl⟩
  | _ :: _ :: _, _ => exact ⟨_, rfl⟩

/-- A text that begins with a quote is read from its first byte on. -/
theorem records_of_quote (t : Text) :
    records (Utf8.encode ('"' :: t)) = ((Scan.initial 0).after ('"' :: t)).finish := by
  have hmark : byteOrderMark.isPrefixOf (Utf8.encode ('"' :: t)) = false := rfl
  rw [records, hmark]
  rfl

/-- Records of quoted fields are read as the bytes of their cells. -/
theorem map_fields_records {header : List Text} (hheader : header ≠ [])
    {entries : List (RecordEnd × List Text)} (hcells : ∀ entry ∈ entries, entry.2 ≠ [])
    (ending : Option RecordEnd) :
    (records (Utf8.encode (written header
      ++ entries.flatMap (fun entry => entry.1.text ++ written entry.2)
      ++ (ending.map RecordEnd.text).getD []))).map Record.fields =
      header.map Utf8.encode :: entries.map fun entry => entry.2.map Utf8.encode := by
  have hfirst := Scan.at_initial.after_written (Or.inl rfl) hheader
  rcases hfirst.after_records hcells with ⟨fields, finished, hlast, heq⟩
  rcases exists_written_eq_cons hheader with ⟨rest, hrest⟩
  calc
    (records (Utf8.encode (written header
        ++ entries.flatMap (fun entry => entry.1.text ++ written entry.2)
        ++ (ending.map RecordEnd.text).getD []))).map Record.fields
        = ((Scan.initial 0).after (written header
            ++ entries.flatMap (fun entry => entry.1.text ++ written entry.2)
            ++ (ending.map RecordEnd.text).getD [])).finish.map Record.fields := by
          rw [hrest, List.cons_append, List.cons_append, records_of_quote]
    _ = finished.reverse ++ [fields] := by
          rw [Scan.after_append, Scan.after_append]
          exact hlast.finish_ending ending
    _ = header.map Utf8.encode :: entries.map fun entry => entry.2.map Utf8.encode := by
          simpa using heq

end GameShelf.Csv
