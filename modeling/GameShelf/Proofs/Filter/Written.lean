import GameShelf.Proofs.Filter.LoadedName
import GameShelf.Proofs.Numeral.Decimal
import GameShelf.Proofs.Text.AsciiCase

/-!
# Writing a filter

There are many ways to write a clause: the letters of the field's name may be of either case,
underscores may stand anywhere in it, and white space of any length may surround the name, the
token and the value.  `WrittenClause` is a clause together with one of these ways.  A filter that
is written clause by clause, with commas in between, reads as exactly these clauses.

The value must be one that the reader finds again: without white space at its ends, commas or
characters of a token.  Then the only such characters of the whole clause are those of its own
token, which is what decides both the operator and the place of the cut.
-/

set_option autoImplicit false

namespace GameShelf

variable {t front back : Text} {c : Char} {field : Field}

/-! ## White space -/

/-- White space of any length. -/
abbrev Text.Blank := { t : Text // t.all Text.isBlank = true }

namespace Text

theorem Blank.isBlank (blank : Blank) (hc : c ∈ blank.1) : Text.isBlank c = true :=
  List.all_eq_true.1 blank.2 c hc

theorem Blank.not_mem (blank : Blank) (hc : Text.isBlank c = false) : c ∉ blank.1 := by
  intro hmem
  rw [blank.isBlank hmem] at hc
  cases hc

theorem trim_blank_append (blank : Blank) (t : Text) : trim (blank.1 ++ t) = trim t := by
  have hstart : trimStart (blank.1 ++ t) = trimStart t :=
    List.dropWhile_append_of_pos fun c hc => blank.isBlank hc
  rw [trim, hstart, trim]

theorem trim_append_blank (t : Text) (blank : Blank) : trim (t ++ blank.1) = trim t := by
  have hblank : blank.1.trim = [] := trim_eq_nil_iff.2 fun c hc => blank.isBlank hc
  rw [← trimStart_trimEnd, trimEnd_append_of_blank t hblank, trimStart_trimEnd]

end Text

/-! ## Between unmarked texts -/

theorem Operator.marks_of_mem_token {operator : Operator} (hc : c ∈ operator.token.toList) :
    c ∈ marks := by
  have htoken : operator.token.toList.all marks.contains = true := by
    cases operator <;> decide
  exact List.contains_iff_mem.1 (List.all_eq_true.1 htoken c hc)

theorem Text.Unmarked.append (hfront : front.Unmarked) (hback : back.Unmarked) :
    Text.Unmarked (front ++ back) := by
  intro c hc hmem
  rcases List.mem_append.1 hmem with hmem | hmem
  · exact hfront c hc hmem
  · exact hback c hc hmem

theorem Text.Blank.unmarked (blank : Text.Blank) : Text.Unmarked blank.1 := by
  have hmarks : Operator.marks.all (fun c => !Text.isBlank c) = true := by
    decide
  intro c hc
  exact blank.not_mem (by simpa using List.all_eq_true.1 hmarks c hc)

theorem Text.Unmarked.filter_eq_nil (h : t.Unmarked) :
    t.filter Operator.marks.contains = [] := by
  refine List.filter_eq_nil_iff.2 ?_
  intro c hmem hc
  exact h c (List.contains_iff_mem.1 hc) hmem

/-- A token between unmarked texts holds every token that occurs. -/
theorem Operator.isInfix_token_of_unmarked (hfront : front.Unmarked) (hback : back.Unmarked)
    {operator other : Operator}
    (hin : other.token.toList <:+: front ++ operator.token.toList ++ back) :
    other.token.toList <:+: operator.token.toList := by
  have hkept (operator : Operator) :
      operator.token.toList.filter marks.contains = operator.token.toList :=
    List.filter_eq_self.2 fun c hc => List.contains_iff_mem.2 (marks_of_mem_token hc)
  -- Of the whole text the marks alone are the token.
  have hmarks := hin.filter marks.contains
  simpa only [List.filter_append, hfront.filter_eq_nil, hback.filter_eq_nil, hkept,
    List.nil_append, List.append_nil] using hmarks

theorem Operator.firstIn_of_unmarked (hfront : front.Unmarked) (hback : back.Unmarked)
    (operator : Operator) : operator.FirstIn (front ++ operator.token.toList ++ back) := by
  have halone : operator.FirstIn operator.token.toList :=
    detect?_eq_some_iff.1 (by cases operator <;> decide)
  rcases halone with ⟨earlier, later, hall, -, hnone⟩
  refine ⟨earlier, later, hall, List.infix_append front operator.token.toList back, ?_⟩
  intro other hmem hin
  exact hnone other hmem (isInfix_token_of_unmarked hfront hback hin)

/-- No token begins within an unmarked text. -/
theorem Text.Unmarked.length_le (hfront : front.Unmarked) {rest start rear : Text}
    {operator : Operator} (heq : front ++ rest = start ++ operator.token.toList ++ rear) :
    front.length ≤ start.length := by
  rw [List.append_assoc, List.append_eq_append_iff] at heq
  rcases heq with ⟨between, rfl, -⟩ | ⟨between, rfl, htoken⟩
  · simp
  · cases between with
    | nil => simp
    | cons c between =>
        -- The token would begin with a character of the unmarked text.
        have hmem : c ∈ operator.token.toList := by
          have hne : operator.token.toList ≠ [] := by cases operator <;> decide
          rcases List.exists_cons_of_ne_nil hne with ⟨d, tail, hcons⟩
          rw [hcons, List.cons_append, List.cons_append] at htoken
          rw [hcons, (List.cons.inj htoken).1]
          exact List.mem_cons_self
        exact absurd (by simp) (hfront c (Operator.marks_of_mem_token hmem))

theorem Text.leftmostCut_of_unmarked (hfront : front.Unmarked) (operator : Operator)
    (back : Text) :
    LeftmostCut operator.token.toList (front ++ operator.token.toList ++ back) front back := by
  refine ⟨rfl, ?_⟩
  intro start rear heq
  rw [List.append_assoc] at heq
  exact hfront.length_le heq

/-! ## Spellings of a field -/

namespace Field

/-- Whether the text is the field's name in filters, but for the case of letters and for
underscores. -/
def spelledBy (field : Field) (t : Text) : Bool :=
  Text.sameIgnoringAsciiCase (t.filter (· ≠ '_')) field.filterName.toList

theorem ofFilterText?_of_spelledBy (h : field.spelledBy t = true) :
    ofFilterText? t = some field := by
  have hname : Text.lowercase field.filterName.toList = field.filterName.toList := by
    cases field <;> decide +kernel
  have hsame : normalizeName t = field.filterName.toList := by
    rw [normalizeName, ← Text.lowercase_lowerAscii, Text.sameIgnoringAsciiCase_iff.1 h,
      Text.lowercase_lowerAscii, hname]
  exact ofFilterName?_eq_some_iff.2 hsame

/-- A spelling has letters and underscores only. -/
theorem isAlpha_of_spelledBy (h : field.spelledBy t = true) (hc : c ∈ t) :
    c = '_' ∨ c.isAlpha = true := by
  by_cases hscore : c = '_'
  · exact Or.inl hscore
  · have hletters : (Text.lowerAscii field.filterName.toList).all Char.isAlpha = true := by
      cases field <;> decide
    have hmem : c.toLower ∈ Text.lowerAscii field.filterName.toList := by
      rw [← Text.sameIgnoringAsciiCase_iff.1 h]
      exact List.mem_map_of_mem (List.mem_filter.2 ⟨hc, by simpa using hscore⟩)
    exact Or.inr (Text.isAlpha_toLower c ▸ List.all_eq_true.1 hletters _ hmem)

theorem ne_nil_of_spelledBy (h : field.spelledBy t = true) : t ≠ [] := by
  rintro rfl
  revert h
  cases field <;> decide

theorem unbroken_of_spelledBy (h : field.spelledBy t = true) : Numeral.Unbroken t := by
  intro c hc
  rcases isAlpha_of_spelledBy h hc with rfl | halpha
  · decide
  · exact Text.isBlank_of_isAlpha halpha

theorem not_mem_of_spelledBy (h : field.spelledBy t = true) (hscore : c ≠ '_')
    (halpha : c.isAlpha = false) : c ∉ t := by
  intro hc
  rcases isAlpha_of_spelledBy h hc with hc | hc
  · exact hscore hc
  · rw [halpha] at hc
    cases hc

theorem unmarked_of_spelledBy (h : field.spelledBy t = true) : t.Unmarked := by
  have hmarks : Operator.marks.all (fun c => c ≠ '_' && !c.isAlpha) = true := by
    decide
  intro c hc
  have hmark := List.all_eq_true.1 hmarks c hc
  simp only [Bool.and_eq_true, Bool.not_eq_true', decide_eq_true_eq] at hmark
  exact not_mem_of_spelledBy h hmark.1 hmark.2

end Field

/-! ## Values -/

/-- A value that can be written in a clause, and is found again as it is. -/
structure Clause.PlainValue (t : Text) : Prop where
  ne_nil : t ≠ []
  trimmed : t.trim = t
  no_comma : ',' ∉ t
  unmarked : t.Unmarked

namespace Clause

theorem plainValue_decimal (i : Int) : PlainValue (Numeral.decimal i) := by
  have hchar {c : Char} (hdigit : c.isDigit = false) (hminus : c ≠ '-') :
      c ∉ Numeral.decimal i := by
    intro hc
    rcases Numeral.isDigit_of_mem_decimal hc with hc | hc
    · rw [hdigit] at hc
      cases hc
    · exact hminus hc
  refine ⟨?_, (Numeral.unbroken_decimal i).trim_eq, hchar (by decide) (by decide), ?_⟩
  · cases i with
    | ofNat n => exact Nat.toDigits_ne_nil
    | negSucc n => exact List.cons_ne_nil _ _
  · have hmarks : Operator.marks.all (fun c => !c.isDigit && c ≠ '-') = true := by
      decide
    intro c hc
    have hmark := List.all_eq_true.1 hmarks c hc
    simp only [Bool.and_eq_true, Bool.not_eq_true', decide_eq_true_eq] at hmark
    exact hchar hmark.1 hmark.2

/-- A whole number in decimal is the value of a clause on a whole-number field. -/
theorem readFieldValue_decimal (hkind : field.kind = .integer) (n : Int64) :
    readFieldValue field (Numeral.decimal n.toInt) = .ok (.number (.int n)) := by
  rw [readFieldValue, mapError_eq_ok_iff, hkind, readValue, Numeral.readInt64_decimal]
  rfl

end Clause

/-! ## Clauses -/

/-- A clause and a way to write it. -/
structure WrittenClause where
  field : Field
  operator : Operator
  value : Value
  /-- The field's name, spelled in one way or another. -/
  spelling : Text
  valueText : Text
  front : Text.Blank
  beforeToken : Text.Blank
  afterToken : Text.Blank
  back : Text.Blank
  applies : operator.appliesTo field.kind = true
  spelled : field.spelledBy spelling = true
  plain : Clause.PlainValue valueText
  valued : Clause.readFieldValue field valueText = .ok value

namespace WrittenClause

variable (written : WrittenClause)

/-- The clause that is meant. -/
def clause : Clause where
  field := written.field
  operator := written.operator
  value := written.value.lowered
  operator_applies := written.applies
  value_accepted := by
    rw [Value.kind_lowered, Clause.kind_of_readFieldValue written.valued]
    cases written.field.kind <;> rfl

theorem build_eq_clause :
    Clause.build written.field written.operator written.value = .ok written.clause := by
  refine Clause.build_eq_ok_iff.2 ⟨written.applies, ?_, rfl, rfl, rfl⟩
  rw [← Value.kind_lowered]
  exact written.clause.value_accepted

/-- What is written in front of the token, from the name on. -/
def before : Text :=
  written.spelling ++ written.beforeToken.1

/-- What is written behind the token, up to the value. -/
def after : Text :=
  written.afterToken.1 ++ written.valueText

/-- The clause without the white space around it. -/
def core : Text :=
  written.before ++ written.operator.token.toList ++ written.after

/-- The clause as it is written. -/
def text : Text :=
  written.front.1 ++ written.core ++ written.back.1

/-! ### What is not in the text -/

theorem comma_not_mem_text : ',' ∉ written.text := by
  have hnot (blank : Text.Blank) : ',' ∉ blank.1 := blank.not_mem Text.isBlank_comma
  have hspelling : ',' ∉ written.spelling :=
    Field.not_mem_of_spelledBy written.spelled (by decide) (by decide)
  have htoken : ',' ∉ written.operator.token.toList := by
    intro hc
    exact absurd (Operator.marks_of_mem_token hc) (by decide)
  simp [text, core, before, after, hnot, hspelling, htoken, written.plain.no_comma]

theorem unmarked_before : written.before.Unmarked :=
  Text.Unmarked.append (Field.unmarked_of_spelledBy written.spelled) written.beforeToken.unmarked

theorem unmarked_after : written.after.Unmarked :=
  Text.Unmarked.append written.afterToken.unmarked written.plain.unmarked

/-! ### Reading it back -/

theorem trim_before : written.before.trim = written.spelling := by
  rw [before, Text.trim_append_blank]
  exact (Field.unbroken_of_spelledBy written.spelled).trim_eq

theorem trim_after : written.after.trim = written.valueText := by
  rw [after, Text.trim_blank_append, written.plain.trimmed]

theorem trim_core : written.core.trim = written.core := by
  have hvalue : written.valueText.trimEnd = written.valueText := by
    rw [← written.plain.trimmed, Text.trim, Text.trimEnd_trimEnd]
  have hne : written.valueText.trim ≠ [] := by
    rw [written.plain.trimmed]
    exact written.plain.ne_nil
  have hstart : written.core.trimStart = written.core := by
    rcases List.exists_cons_of_ne_nil (Field.ne_nil_of_spelledBy written.spelled) with
      ⟨c, rest, hspelling⟩
    have hc : Text.isBlank c = false :=
      Field.unbroken_of_spelledBy written.spelled c (by simp [hspelling])
    simp [core, before, hspelling, Text.trimStart, hc]
  rw [Text.trim, hstart, core, after, ← List.append_assoc, Text.trimEnd_append _ hne, hvalue]

theorem trim_text : written.text.trim = written.core := by
  rw [text, Text.trim_append_blank, Text.trim_blank_append, trim_core]

theorem core_ne_nil : written.core ≠ [] := by
  simp [core, after, written.plain.ne_nil]

theorem parse_core : Clause.parse written.core = .ok written.clause := by
  have hsplit : Clause.split? written.operator.token.toList written.core =
      some (written.spelling, written.valueText) := by
    refine Clause.split?_eq_some_iff.2 ⟨written.before, written.after,
      Text.leftmostCut_of_unmarked written.unmarked_before written.operator written.after,
      written.unmarked_after.not_isInfix written.operator, ⟨?_, written.trim_before⟩,
      ?_, written.trim_after⟩
    · rw [trim_before]
      exact Field.ne_nil_of_spelledBy written.spelled
    · rw [trim_after]
      exact written.plain.ne_nil
  have hdetect : Operator.detect? written.core = some written.operator :=
    Operator.detect?_eq_some_iff.2
      (Operator.firstIn_of_unmarked written.unmarked_before written.unmarked_after _)
  exact Clause.parse_eq_ok_iff.2 ⟨_, _, _, _, _, hdetect, hsplit,
    Field.ofFilterText?_of_spelledBy written.spelled, written.valued, written.build_eq_clause⟩

end WrittenClause

/-! ## Filters -/

namespace Filter

/-- The written clauses with commas in between. -/
def write (written : List WrittenClause) : Text :=
  [','].intercalate (written.map (·.text))

theorem pieces_write {written : List WrittenClause} (h : written ≠ []) :
    (write written).pieces = written.map (·.text) := by
  refine List.splitOn_intercalate ',' ?_ (by simpa using h)
  intro piece hpiece
  rcases List.mem_map.1 hpiece with ⟨clause, -, rfl⟩
  exact clause.comma_not_mem_text

theorem trim_write_ne_nil {written : List WrittenClause} (h : written ≠ []) :
    (write written).trim ≠ [] := by
  intro hblank
  rcases List.exists_cons_of_ne_nil h with ⟨first, rest, rfl⟩
  -- A blank filter would have itself as its only piece.
  have hpieces := pieces_write h
  rw [Text.pieces_of_blank hblank, List.map_cons] at hpieces
  rw [(List.cons.inj hpieces).1, first.trim_text] at hblank
  exact first.core_ne_nil hblank

theorem parsePieces_map_text (written : List WrittenClause) :
    parsePieces (written.map (·.text)) = .ok (written.map (.clause ·.clause)) := by
  induction written with
  | nil => rfl
  | cons first rest ih =>
      rw [List.map_cons, parsePieces, first.trim_text, first.parse_core, ih]
      rfl

/-- A filter written clause by clause reads as its clauses, in the same order; each of them is what
is built from its field, its operator and the value that its text is read as.  Every decimal number
of 64 bits can be the text of a whole-number value and is read as itself, and every text is a
value for the name. -/
theorem parse_write {written : List WrittenClause} (h : written ≠ []) :
    parse (write written) = .ok (written.map (.clause ·.clause)) ∧
    (∀ clause ∈ written,
      Clause.readFieldValue clause.field clause.valueText >>=
        Clause.build clause.field clause.operator = .ok clause.clause) ∧
    (∀ (field : Field) (n : Int64), field.kind = .integer →
      Clause.PlainValue (Numeral.decimal n.toInt) ∧
        Clause.readFieldValue field (Numeral.decimal n.toInt) = .ok (.number (.int n))) ∧
    ∀ t, Clause.readFieldValue .name t = .ok (.text t) := by
  refine ⟨?_, ?_, ?_, fun _ => rfl⟩
  · rw [parse_of_not_blank (trim_write_ne_nil h), pieces_write h, parsePieces_map_text]
  · intro clause _
    exact bind_eq_ok_iff.2 ⟨clause.value, clause.valued, clause.build_eq_clause⟩
  · intro field n hkind
    exact ⟨Clause.plainValue_decimal n.toInt, Clause.readFieldValue_decimal hkind n⟩

/-- The least number of 64 bits, and a name that holds the name of a field. -/
theorem parse_write_two_clauses :
    ∃ rank name : WrittenClause,
      write [rank, name] = "\t_RA_NK>= -9223372036854775808 , Name~=rank 1".toList ∧
      rank.value = .number (.int Int64.minValue) ∧ name.value = .text "rank 1".toList ∧
      parse (write [rank, name]) = .ok [.clause rank.clause, .clause name.clause] := by
  let rank : WrittenClause := {
    field := .rank, operator := .greaterEqual, value := .number (.int Int64.minValue)
    spelling := "_RA_NK".toList, valueText := "-9223372036854775808".toList
    front := ⟨['\t'], rfl⟩, beforeToken := ⟨[], rfl⟩, afterToken := ⟨[' '], rfl⟩
    back := ⟨[' '], rfl⟩
    applies := rfl, spelled := by decide
    plain := ⟨by decide, by decide, by decide, by decide⟩, valued := by decide +kernel }
  let name : WrittenClause := {
    field := .name, operator := .contains, value := .text "rank 1".toList
    spelling := "Name".toList, valueText := "rank 1".toList
    front := ⟨[' '], rfl⟩, beforeToken := ⟨[], rfl⟩, afterToken := ⟨[], rfl⟩
    back := ⟨[], rfl⟩
    applies := rfl, spelled := by decide
    plain := ⟨by decide, by decide, by decide, by decide⟩, valued := rfl }
  refine ⟨rank, name, by decide, rfl, rfl, ?_⟩
  exact (parse_write (List.cons_ne_nil rank [name])).1

end Filter
end GameShelf
