import GameShelf.Utf8

/-!
# Records of a CSV text

A CSV text is read byte by byte.  Commas separate fields; `\n`, `\r` and both together end a record,
and a line without any byte is no record.  A quote is special only as the first byte of a field:
then the field runs to the next quote that is not doubled, whatever is in between, and bytes behind
the closing quote are taken as they are.  The end of the text ends the record that is open.

Each record carries the position where the search for it began: just behind the byte that ended
the record before.  Of a `\r\n` that byte is the `\r`, so the next record is then said to begin in
front of the `\n`, with the line not yet counted.
-/

set_option autoImplicit false

namespace GameShelf.Csv

/-- A place in a CSV text: the number of the record, the line from one, the byte from zero. -/
structure Position where
  record : Nat
  line : Nat
  byte : Nat
  deriving DecidableEq, Repr

/-- A record: where it begins and its fields, without the quotes. -/
structure Record where
  start : Position
  fields : List Bytes
  deriving DecidableEq, Repr

/-- The comma between fields. -/
def comma : UInt8 := 0x2C

/-- The quote around a field. -/
def quote : UInt8 := 0x22

/-- The line feed, which counts lines. -/
def lineFeed : UInt8 := 0x0A

/-- The carriage return. -/
def carriageReturn : UInt8 := 0x0D

/-- Whether the byte ends a record. -/
def isLineEnd (b : UInt8) : Bool :=
  b == lineFeed || b == carriageReturn

/-- What the next byte is about. -/
inductive Mode where
  /-- No record is open. -/
  | between
  /-- A field is open and has no byte yet. -/
  | fieldStart
  /-- Within a field, outside quotes. -/
  | plain
  /-- Within a quoted field. -/
  | quoted
  /-- Behind a quote in a quoted field, which may turn out to be doubled. -/
  | quoteSeen
  deriving DecidableEq, Repr

/-- A reading in progress.  The three lists have their latest element first. -/
structure Scan where
  mode : Mode
  /-- The current line and byte. -/
  line : Nat
  byte : Nat
  /-- Where the search for the current record began. -/
  start : Position
  /-- The bytes of the open field. -/
  field : Bytes
  /-- The finished fields of the open record. -/
  fields : List Bytes
  /-- The finished records. -/
  records : List Record
  deriving DecidableEq, Repr

namespace Scan

/-- The scan before the first byte; `skipped` bytes in front are counted but not read. -/
def initial (skipped : Nat) : Scan :=
  ⟨.between, 1, skipped, ⟨0, 1, 0⟩, [], [], []⟩

/-- Counts a byte. -/
def count (s : Scan) (b : UInt8) : Scan :=
  { s with line := if b == lineFeed then s.line + 1 else s.line, byte := s.byte + 1 }

/-- Adds a byte to the open field. -/
def keep (s : Scan) (b : UInt8) (mode : Mode) : Scan :=
  { s with mode := mode, field := b :: s.field }

/-- Ends the open field and opens the next one. -/
def endField (s : Scan) : Scan :=
  { s with mode := .fieldStart, field := [], fields := s.field.reverse :: s.fields }

/-- Ends the open field and its record. -/
def endRecord (s : Scan) : Scan :=
  { s with
    mode := .between
    start := ⟨s.start.record + 1, s.line, s.byte⟩
    field := []
    fields := []
    records := ⟨s.start, (s.field.reverse :: s.fields).reverse⟩ :: s.records }

/-- A byte outside quotes. -/
def takePlain (s : Scan) (b : UInt8) : Scan :=
  if b == comma then s.endField
  else if isLineEnd b then s.endRecord
  else s.keep b .plain

/-- The first byte of a field. -/
def takeFirst (s : Scan) (b : UInt8) : Scan :=
  if b == quote then { s with mode := .quoted } else s.takePlain b

/-- One byte. -/
def step (scan : Scan) (b : UInt8) : Scan :=
  let s := scan.count b
  match s.mode with
  | .between => if isLineEnd b then s else s.takeFirst b
  | .fieldStart => s.takeFirst b
  | .plain => s.takePlain b
  | .quoted => if b == quote then { s with mode := .quoteSeen } else s.keep b .quoted
  | .quoteSeen => if b == quote then s.keep b .quoted else s.takePlain b

/-- The records at the end of the text. -/
def finish (s : Scan) : List Record :=
  match s.mode with
  | .between => s.records.reverse
  | _ => s.endRecord.records.reverse

end Scan

/-- The byte order mark, which may stand in front of the text. -/
def byteOrderMark : Bytes := [0xEF, 0xBB, 0xBF]

/-- The records of a CSV text. -/
def records (bytes : Bytes) : List Record :=
  if byteOrderMark.isPrefixOf bytes then
    ((bytes.drop byteOrderMark.length).foldl Scan.step (.initial byteOrderMark.length)).finish
  else
    (bytes.foldl Scan.step (.initial 0)).finish

end GameShelf.Csv
