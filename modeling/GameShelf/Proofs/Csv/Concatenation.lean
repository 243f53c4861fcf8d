import GameShelf.Proofs.Csv.Scan
import GameShelf.Proofs.Csv.Unquoted
import GameShelf.Proofs.Outcome
import GameShelf.Table
import Mathlib.Data.List.Forall2

/-!
# Tables in two parts

Rows that stand behind a header line can be loaded in two parts, each with the header in front of
it.  The scanner is the reason: behind a line feed outside quotes it holds nothing but the records
that are finished, so what follows is read as it would be behind the header alone.  Only the
positions differ, and of these the number of a record by as many records as there are in the first
part.

`Scan.Ahead` relates two scans of this kind, and no byte leads out of it (`Scan.Ahead.step`).  The
loader reads records from the first one on, so a fault in the first part comes before all that is
in the second.
-/

set_option autoImplicit false

namespace GameShelf

namespace Csv

/-! ## Records that come later -/

/-- The second record has the fields of the first one, and its number is larger by `n`. -/
structure Record.Later (n : Nat) (r r' : Record) : Prop where
  fields_eq : r'.fields = r.fields
  number_eq : r'.start.record = n + r.start.record

/-- The outcomes are the same, but a fault may be in a record whose number is larger by `n`. -/
inductive FoundLater (n : Nat) {α : Type} : Except Fault α → Except Fault α → Prop where
  | ok (a : α) : FoundLater n (.ok a) (.ok a)
  | error {p q : Position} (cause : RecordFault) (h : q.record = n + p.record) :
      FoundLater n (.error ⟨p, cause⟩) (.error ⟨q, cause⟩)

namespace FoundLater

variable {n : Nat} {α β : Type} {x x' : Except Fault α}

theorem bind {f f' : α → Except Fault β} (h : FoundLater n x x')
    (hf : ∀ a, FoundLater n (f a) (f' a)) : FoundLater n (x >>= f) (x' >>= f') := by
  cases h with
  | ok a => exact hf a
  | error cause hnumber => exact .error cause hnumber

theorem eq_ok_iff (h : FoundLater n x x') {a : α} : x' = .ok a ↔ x = .ok a := by
  cases h with
  | ok a' => exact Iff.rfl
  | error cause hnumber => simp

theorem exists_error (h : FoundLater n x x') {fault : Fault} (hx : x = .error fault) :
    ∃ q : Position, x' = .error ⟨q, fault.cause⟩ ∧ q.record = n + fault.position.record := by
  cases h with
  | ok a => cases hx
  | error cause hnumber =>
      cases hx
      exact ⟨_, rfl, hnumber⟩

end FoundLater

namespace Header

variable {n : Nat} {header : Header} {rows rows' : List Record} {games : List Game}

theorem readRecord_later {r r' : Record} (h : r.Later n r') :
    FoundLater n (header.readRecord r) (header.readRecord r') := by
  rw [readRecord, readRecord, h.fields_eq]
  cases header.readFields r.fields with
  | ok game => exact .ok game
  | error cause => exact .error cause h.number_eq

theorem readRecords_later (h : List.Forall₂ (Record.Later n) rows rows') :
    FoundLater n (header.readRecords rows) (header.readRecords rows') := by
  induction h with
  | nil => exact .ok []
  | cons hfirst _ ih =>
      exact (readRecord_later hfirst).bind fun game => ih.bind fun games => .ok (game :: games)

/-- The records of the first part are read before those of the second. -/
theorem readRecords_append (rows rows' : List Record) :
    header.readRecords (rows ++ rows') =
      header.readRecords rows >>= fun games => (header.readRecords rows').map (games ++ ·) := by
  induction rows with
  | nil =>
      change header.readRecords rows' = (header.readRecords rows').map ([] ++ ·)
      cases header.readRecords rows' with
      | error fault => rfl
      | ok games => rfl
  | cons r rows ih =>
      rw [List.cons_append, readRecords, readRecords, ih]
      cases header.readRecord r with
      | error fault => rfl
      | ok game =>
          cases header.readRecords rows with
          | error fault => rfl
          | ok games =>
              cases header.readRecords rows' with
              | error fault => rfl
              | ok games' => rfl

theorem length_of_readRecords (h : header.readRecords rows = .ok games) :
    games.length = rows.length :=
  (readRecords_eq_ok_iff.1 h).length_eq.symm

end Header

/-! ## Two scans side by side -/

namespace Scan

/-- The scans differ in positions and in the records that were finished before, of which the second
scan has `n` more.  What they have found since is the same. -/
structure Ahead (n : Nat) (done done' : List Record) (s s' : Scan) : Prop where
  mode_eq : s'.mode = s.mode
  field_eq : s'.field = s.field
  fields_eq : s'.fields = s.fields
  number_eq : s'.start.record = n + s.start.record
  found : ∃ found found', s.records = found ++ done ∧ s'.records = found' ++ done' ∧
    List.Forall₂ (Record.Later n) found found'

variable {n : Nat} {done done' : List Record} {s s' : Scan} {b : UInt8}

theorem Ahead.count (h : Ahead n done done' s s') (b : UInt8) :
    Ahead n done done' (s.count b) (s'.count b) :=
  ⟨h.mode_eq, h.field_eq, h.fields_eq, h.number_eq, h.found⟩

theorem Ahead.withMode (h : Ahead n done done' s s') (mode : Mode) :
    Ahead n done done' { s with mode := mode } { s' with mode := mode } :=
  ⟨rfl, h.field_eq, h.fields_eq, h.number_eq, h.found⟩

theorem Ahead.keep (h : Ahead n done done' s s') (b : UInt8) (mode : Mode) :
    Ahead n done done' (s.keep b mode) (s'.keep b mode) :=
  ⟨rfl, congrArg (b :: ·) h.field_eq, h.fields_eq, h.number_eq, h.found⟩

theorem Ahead.endField (h : Ahead n done done' s s') :
    Ahead n done done' s.endField s'.endField := by
  refine ⟨rfl, rfl, ?_, h.number_eq, h.found⟩
  simp [Scan.endField, h.field_eq, h.fields_eq]

theorem Ahead.endRecord (h : Ahead n done done' s s') :
    Ahead n done done' s.endRecord s'.endRecord := by
  rcases h.found with ⟨found, found', hrecords, hrecords', hlater⟩
  have hnumber : s'.start.record + 1 = n + (s.start.record + 1) := by
    rw [h.number_eq, Nat.add_assoc]
  refine ⟨rfl, rfl, rfl, hnumber, ⟨s.start, (s.field.reverse :: s.fields).reverse⟩ :: found,
    ⟨s'.start, (s'.field.reverse :: s'.fields).reverse⟩ :: found', ?_, ?_, ?_⟩
  · simp [Scan.endRecord, hrecords]
  · simp [Scan.endRecord, hrecords']
  · refine .cons ⟨?_, h.number_eq⟩ hlater
    simp [h.field_eq, h.fields_eq]

theorem Ahead.takePlain (h : Ahead n done done' s s') (b : UInt8) :
    Ahead n done done' (s.takePlain b) (s'.takePlain b) := by
  unfold Scan.takePlain
  split
  · exact h.endField
  · split
    · exact h.endRecord
    · exact h.keep b .plain

theorem Ahead.takeFirst (h : Ahead n done done' s s') (b : UInt8) :
    Ahead n done done' (s.takeFirst b) (s'.takeFirst b) := by
  unfold Scan.takeFirst
  split
  · exact h.withMode .quoted
  · exact h.takePlain b

/-- Both scans do the same with a byte. -/
theorem Ahead.step (h : Ahead n done done' s s') (b : UInt8) :
    Ahead n done done' (s.step b) (s'.step b) := by
  have hcount := h.count b
  simp only [Scan.step, hcount.mode_eq]
  cases (s.count b).mode with
  | between =>
      dsimp only
      split
      · exact hcount
      · exact hcount.takeFirst b
  | fieldStart => exact hcount.takeFirst b
  | plain => exact hcount.takePlain b
  | quoted =>
      dsimp only
      split
      · exact hcount.withMode .quoteSeen
      · exact hcount.keep b .quoted
  | quoteSeen =>
      dsimp only
      split
      · exact hcount.keep b .quoted
      · exact hcount.takePlain b

theorem Ahead.foldl (h : Ahead n done done' s s') (bytes : Bytes) :
    Ahead n done done' (bytes.foldl Scan.step s) (bytes.foldl Scan.step s') := by
  induction bytes generalizing s s' with
  | nil => exact h
  | cons b rest ih => exact ih (h.step b)

/-- In the end both have found the same behind what they had before. -/
theorem Ahead.finish (h : Ahead n done done' s s') :
    ∃ rows rows', s.finish = done.reverse ++ rows ∧ s'.finish = done'.reverse ++ rows' ∧
      List.Forall₂ (Record.Later n) rows rows' := by
  have hreverse {t t' : Scan} (ht : Ahead n done done' t t') :
      ∃ rows rows', t.records.reverse = done.reverse ++ rows ∧
        t'.records.reverse = done'.reverse ++ rows' ∧ List.Forall₂ (Record.Later n) rows rows' := by
    rcases ht.found with ⟨found, found', hrecords, hrecords', hlater⟩
    refine ⟨found.reverse, found'.reverse, ?_, ?_, List.rel_reverse hlater⟩
    · rw [hrecords, List.reverse_append]
    · rw [hrecords', List.reverse_append]
  simp only [Scan.finish, h.mode_eq]
  -- A record that is open is ended in both.
  cases s.mode with
  | between => exact hreverse h
  | fieldStart => exact hreverse h.endRecord
  | plain => exact hreverse h.endRecord
  | quoted => exact hreverse h.endRecord
  | quoteSeen => exact hreverse h.endRecord

/-! ## Between two records -/

/-- What is so at any time: records are numbered in the order in which they are found, and between
two records nothing is open. -/
structure Tidy (s : Scan) : Prop where
  number_eq : s.start.record = s.records.length
  field_eq : s.mode = .between → s.field = []
  fields_eq : s.mode = .between → s.fields = []

theorem tidy_initial (skipped : Nat) : (initial skipped).Tidy :=
  ⟨rfl, fun _ => rfl, fun _ => rfl⟩

theorem Tidy.of_open (hnumber : s.start.record = s.records.length) (hmode : s.mode ≠ .between) :
    s.Tidy :=
  ⟨hnumber, fun h => absurd h hmode, fun h => absurd h hmode⟩

theorem Tidy.endRecord (h : s.Tidy) : s.endRecord.Tidy := by
  refine ⟨?_, fun _ => rfl, fun _ => rfl⟩
  simp [Scan.endRecord, h.number_eq]

theorem Tidy.step (h : s.Tidy) (b : UInt8) : (s.step b).Tidy := by
  have hcount : (s.count b).Tidy := ⟨h.number_eq, h.field_eq, h.fields_eq⟩
  have htakes := s.takes_step b
  generalize s.step b = next at htakes ⊢
  cases htakes with
  | skip => exact hcount
  | quote _ mode hmode => exact .of_open h.number_eq hmode
  | keep mode hmode => exact .of_open h.number_eq hmode
  | endField => exact .of_open h.number_eq (by simp [endField])
  | endRecord => exact hcount.endRecord

theorem Tidy.foldl (h : s.Tidy) (bytes : Bytes) : (bytes.foldl Scan.step s).Tidy := by
  induction bytes generalizing s with
  | nil => exact h
  | cons b rest ih => exact ih (h.step b)

/-- Between records, two scans go on alike. -/
theorem Tidy.ahead (h : s.Tidy) (h' : s'.Tidy) (hmode : s.mode = .between)
    (hmode' : s'.mode = .between) (hlength : s'.records.length = n + s.records.length) :
    Ahead n s.records s'.records s s' where
  mode_eq := by rw [hmode, hmode']
  field_eq := by rw [h.field_eq hmode, h'.field_eq hmode']
  fields_eq := by rw [h.fields_eq hmode, h'.fields_eq hmode']
  number_eq := by rw [h.number_eq, h'.number_eq, hlength]
  found := ⟨[], [], rfl, rfl, .nil⟩

/-! ## Lines without quotes -/

/-- A line feed outside quotes ends the record that is open. -/
theorem Unquoted.step_lineFeed (h : s.Unquoted) :
    (s.step lineFeed).mode = .between ∧
      (s.mode ≠ .between → (s.step lineFeed).records.length = s.records.length + 1) := by
  have hcount := h.count lineFeed
  have hplain : (s.count lineFeed).takePlain lineFeed = (s.count lineFeed).endRecord := rfl
  have hfirst : (s.count lineFeed).takeFirst lineFeed = (s.count lineFeed).endRecord := rfl
  have hmode : s.mode = (s.count lineFeed).mode := rfl
  rw [hmode]
  unfold Scan.step
  cases hcase : (s.count lineFeed).mode with
  | between =>
      simp only [hcase]
      exact ⟨hcase, fun hne => absurd rfl hne⟩
  | fieldStart =>
      simp only [hcase, hfirst]
      exact ⟨rfl, fun _ => rfl⟩
  | plain =>
      simp only [hcase, hplain]
      exact ⟨rfl, fun _ => rfl⟩
  | quoted => exact absurd hcase hcount.mode_ne_quoted
  | quoteSeen => exact absurd hcase hcount.mode_ne_quoteSeen

/-- Within a line a record is open and none is finished. -/
theorem step_of_not_lineEnd (hb : isLineEnd b = false) :
    (s.step b).mode ≠ .between ∧ (s.step b).records = s.records := by
  have htakes := s.takes_step b
  generalize s.step b = next at htakes ⊢
  cases htakes with
  | skip _ hend => simp [hb] at hend
  | quote _ mode hmode => exact ⟨hmode, rfl⟩
  | keep mode hmode => exact ⟨hmode, rfl⟩
  | endField => exact ⟨by simp [endField], rfl⟩
  | endRecord hend => simp [hb] at hend

theorem foldl_oneLine {line : Bytes} (hline : OneLine line) :
    (line.foldl Scan.step s).records = s.records ∧
      (line ≠ [] → (line.foldl Scan.step s).mode ≠ .between) := by
  induction line generalizing s with
  | nil => exact ⟨rfl, fun hne => absurd rfl hne⟩
  | cons b rest ih =>
      have hb := step_of_not_lineEnd (s := s) (hline b List.mem_cons_self)
      have hrest := ih (s := s.step b) fun c hc => hline c (List.mem_cons_of_mem b hc)
      refine ⟨hrest.1.trans hb.2, fun _ => ?_⟩
      cases rest with
      | nil => exact hb.1
      | cons c rest => exact hrest.2 (List.cons_ne_nil c rest)

end Scan

/-! ## The header line -/

/-- The number of bytes in front of the text that are not read. -/
def markLength (bytes : Bytes) : Nat :=
  if byteOrderMark.isPrefixOf bytes then byteOrderMark.length else 0

/-- A line that holds a header: no quote and no line end, and something behind a byte order
mark. -/
structure HeaderLine (line : Bytes) : Prop where
  no_quote : quote ∉ line
  oneLine : OneLine line
  ne_nil : line.drop (markLength line) ≠ []

theorem records_eq_finish (bytes : Bytes) :
    records bytes =
      ((bytes.drop (markLength bytes)).foldl Scan.step (.initial (markLength bytes))).finish := by
  unfold records markLength
  split
  · rfl
  · rfl

/-- What is behind a line feed does not make a byte order mark. -/
theorem isPrefixOf_append_lineFeed {mark line : Bytes} (hmark : lineFeed ∉ mark) (rows : Bytes) :
    mark.isPrefixOf (line ++ lineFeed :: rows) = mark.isPrefixOf line := by
  induction mark generalizing line with
  | nil => rfl
  | cons b mark ih =>
      rw [List.mem_cons, not_or] at hmark
      cases line with
      | nil =>
          have hb : (b == lineFeed) = false := by
            simpa using Ne.symm hmark.1
          simp [List.isPrefixOf, hb]
      | cons c line => simp only [List.cons_append, List.isPrefixOf, ih hmark.2]

theorem markLength_append_lineFeed (line rows : Bytes) :
    markLength (line ++ lineFeed :: rows) = markLength line := by
  rw [markLength, isPrefixOf_append_lineFeed (by decide), markLength]

theorem markLength_le (bytes : Bytes) : markLength bytes ≤ bytes.length := by
  unfold markLength
  split
  next hmark => exact (List.isPrefixOf_iff_prefix.1 hmark).length_le
  next => exact Nat.zero_le _

/-- The scan behind the header line. -/
def headed (line : Bytes) : Scan :=
  (line.drop (markLength line) ++ [lineFeed]).foldl Scan.step (.initial (markLength line))

theorem records_of_headed (line rows : Bytes) :
    records (line ++ lineFeed :: rows) = (rows.foldl Scan.step (headed line)).finish := by
  have hdrop : (line ++ lineFeed :: rows).drop (markLength line) =
      line.drop (markLength line) ++ [lineFeed] ++ rows := by
    rw [List.drop_append_of_le_length (markLength_le line), List.append_assoc]
    rfl
  rw [records_eq_finish, markLength_append_lineFeed, hdrop, List.foldl_append, headed]

namespace HeaderLine

variable {line a b : Bytes}

theorem unquoted_headed (h : HeaderLine line) : (headed line).Unquoted := by
  refine (Scan.unquoted_initial _).foldl ?_
  intro hmem
  rcases List.mem_append.1 hmem with hmem | hmem
  · exact h.no_quote ((List.drop_sublist _ line).mem hmem)
  · exact absurd hmem (by decide)

theorem tidy_headed (line : Bytes) : (headed line).Tidy :=
  (Scan.tidy_initial _).foldl _

/-- The header line is the only record so far. -/
theorem between_headed (h : HeaderLine line) :
    (headed line).mode = .between ∧ (headed line).records.length = 1 := by
  have hquote : quote ∉ line.drop (markLength line) :=
    fun hmem => h.no_quote ((List.drop_sublist _ line).mem hmem)
  have honeLine : OneLine (line.drop (markLength line)) :=
    fun b hb => h.oneLine b ((List.drop_sublist _ line).mem hb)
  have hstart := Scan.unquoted_initial (markLength line)
  have hline := Scan.foldl_oneLine (s := .initial (markLength line)) honeLine
  have hend := (hstart.foldl hquote).step_lineFeed
  rw [headed, List.foldl_append]
  refine ⟨hend.1, ?_⟩
  have hlength := hend.2 (hline.2 h.ne_nil)
  rw [hline.1] at hlength
  exact hlength

/-- Rows without quotes that are empty or end in a line feed leave no record open. -/
theorem mode_rows (h : HeaderLine line) (ha : quote ∉ a)
    (hend : a = [] ∨ ∃ front, a = front ++ [lineFeed]) :
    (a.foldl Scan.step (headed line)).mode = .between := by
  rcases hend with rfl | ⟨front, rfl⟩
  · exact h.between_headed.1
  · have hfront : quote ∉ front := fun hmem => ha (List.mem_append_left _ hmem)
    rw [List.foldl_append]
    exact (h.unquoted_headed.foldl hfront).step_lineFeed.1

/-- The records of both parts together are those of the first part and then those of the second,
which come as many records later as the first part has. -/
theorem exists_records (h : HeaderLine line) (ha : quote ∉ a)
    (hend : a = [] ∨ ∃ front, a = front ++ [lineFeed]) (b : Bytes) :
    ∃ head first second second', records (line ++ lineFeed :: a) = head :: first ∧
      records (line ++ lineFeed :: b) = head :: second ∧
      records (line ++ lineFeed :: (a ++ b)) = head :: (first ++ second') ∧
      List.Forall₂ (Record.Later first.length) second second' := by
  rcases h.between_headed with ⟨hmode, hone⟩
  rcases List.length_eq_one_iff.1 hone with ⟨head, hhead⟩
  have htidy := tidy_headed line
  have hmode' := h.mode_rows ha hend
  -- The first part is found behind the header.
  have hself := (htidy.ahead htidy hmode hmode (Nat.zero_add _).symm).foldl a
  rcases hself.finish with ⟨first, -, hfirst, -⟩
  have hdone : (a.foldl Scan.step (headed line)).finish =
      (a.foldl Scan.step (headed line)).records.reverse := by
    rw [Scan.finish, hmode']
  have hlength : (a.foldl Scan.step (headed line)).records.length =
      first.length + (headed line).records.length := by
    rw [← List.length_reverse, ← hdone, hfirst, List.length_append, List.length_reverse,
      Nat.add_comm]
  -- The second part is found behind the header as behind the first part.
  have hboth := (htidy.ahead (htidy.foldl a) hmode hmode' hlength).foldl b
  rcases hboth.finish with ⟨second, second', hsecond, hsecond', hlater⟩
  rw [hhead] at hfirst hsecond
  refine ⟨head, first, second, second', ?_, ?_, ?_, hlater⟩
  · rw [records_of_headed, hfirst]
    rfl
  · rw [records_of_headed, hsecond]
    rfl
  · rw [records_of_headed, List.foldl_append, hsecond', ← hdone, hfirst]
    rfl

end HeaderLine
end Csv

/-! ## Loading -/

namespace Table

open Csv (HeaderLine lineFeed quote)

variable {line a b : Bytes}

theorem load_of_records {bytes : Bytes} {head : Csv.Record} {rows : List Csv.Record}
    (h : Csv.records bytes = head :: rows) :
    load bytes = ((Csv.Header.ofFields head.fields).readRecords rows).mapError .notLoaded := by
  rw [load, Csv.loadGames, h]

/-- Loading behind a header line goes by parts.  Rows in two parts load if each part does, as the
games of the first part and then those of the second; a fault in the first part is the fault of the
whole; and a fault that is only in the second part is the fault of the whole, with the number of its
record larger by the number of games in the first part. -/
theorem load_append (hline : HeaderLine line) (ha : quote ∉ a)
    (hend : a = [] ∨ ∃ front, a = front ++ [lineFeed]) (b : Bytes) :
    (∀ games, load (line ++ lineFeed :: (a ++ b)) = .ok games ↔
      ∃ first second, load (line ++ lineFeed :: a) = .ok first ∧
        load (line ++ lineFeed :: b) = .ok second ∧ games = first ++ second) ∧
    (∀ e, load (line ++ lineFeed :: a) = .error e →
      load (line ++ lineFeed :: (a ++ b)) = .error e) ∧
    ∀ first e, load (line ++ lineFeed :: a) = .ok first → load (line ++ lineFeed :: b) = .error e →
      ∃ p q cause, e = .notLoaded ⟨p, cause⟩ ∧
        load (line ++ lineFeed :: (a ++ b)) = .error (.notLoaded ⟨q, cause⟩) ∧
        q.record = first.length + p.record := by
  rcases hline.exists_records ha hend b with
    ⟨head, first, second, second', hfirst, hsecond, hboth, hlater⟩
  rw [load_of_records hfirst, load_of_records hsecond, load_of_records hboth,
    Csv.Header.readRecords_append]
  have hfound : Csv.FoundLater first.length ((Csv.Header.ofFields head.fields).readRecords second)
      ((Csv.Header.ofFields head.fields).readRecords second') :=
    Csv.Header.readRecords_later hlater
  refine ⟨?_, ?_, ?_⟩
  · intro games
    simp only [mapError_eq_ok_iff, bind_eq_ok_iff, map_eq_ok_iff, hfound.eq_ok_iff]
    constructor
    · rintro ⟨games, hgames, others, hothers, rfl⟩
      exact ⟨games, others, hgames, hothers, rfl⟩
    · rintro ⟨games, others, hgames, hothers, rfl⟩
      exact ⟨games, hgames, others, hothers, rfl⟩
  · intro e he
    rcases mapError_eq_error_iff.1 he with ⟨fault, hfault, rfl⟩
    rw [hfault]
    rfl
  · intro games e hgames he
    rw [mapError_eq_ok_iff] at hgames
    rcases mapError_eq_error_iff.1 he with ⟨fault, hfault, rfl⟩
    rcases hfound.exists_error hfault with ⟨q, hq, hnumber⟩
    refine ⟨fault.position, q, fault.cause, rfl, ?_, ?_⟩
    · rw [hgames, hq]
      rfl
    · rw [Csv.Header.length_of_readRecords hgames, hnumber]

/-- A carriage return and empty lines in the first part, and a second part whose second row has a
letter for a number. -/
theorem load_append_late_fault :
    let line := Utf8.encode header.dropLast
    let a := Utf8.encode "Go,1,2,2,30,180,0,23,0,-2200\r\n\n".toList
    let b := Utf8.encode ("\rChess,2,2,2,30,60,0,4,0,1475\n".toList ++
      "Fish,x,2,6,20,30,0,90,0,1850\n".toList)
    let cause := Csv.RecordFault.cell 1 .invalidDigit
    HeaderLine line ∧ quote ∉ a ∧
      load (line ++ lineFeed :: b) = .error (.notLoaded ⟨⟨2, 3, 127⟩, cause⟩) ∧
      ∃ q : Csv.Position, q.record = 3 ∧
        load (line ++ lineFeed :: (a ++ b)) = .error (.notLoaded ⟨q, cause⟩) := by
  intro line a b cause
  have honeLine : line.all (fun b => !Csv.isLineEnd b) = true := by decide +kernel
  have hline : HeaderLine line := {
    no_quote := by decide +kernel
    oneLine := fun b hb => by simpa using List.all_eq_true.1 honeLine b hb
    ne_nil := by decide +kernel }
  have ha : quote ∉ a := by decide +kernel
  have hend : a = a.dropLast ++ [lineFeed] := by decide +kernel
  have hfirst : (load (line ++ lineFeed :: a)).map List.length = .ok 1 := by decide +kernel
  have hsecond : load (line ++ lineFeed :: b) = .error (.notLoaded ⟨⟨2, 3, 127⟩, cause⟩) := by
    decide +kernel
  rcases map_eq_ok_iff.1 hfirst with ⟨first, hload, hlength⟩
  rcases (load_append hline ha (Or.inr ⟨_, hend⟩) b).2.2 first _ hload hsecond with
    ⟨p, q, cause', heq, hboth, hnumber⟩
  cases heq
  rw [hlength] at hnumber
  exact ⟨hline, ha, hsecond, q, hnumber, hboth⟩

end Table
end GameShelf
