import GameShelf.Proofs.Selector.Span
import GameShelf.Proofs.Text.Digit
import GameShelf.Proofs.Text.Pieces

/-!
# The grammar of selectors

Every text is a selector.  `Reads` is the grammar: `all` in whatever letter case, a run of digits,
two runs of digits with a hyphen between them, and as a name what is none of these.  No text has two
of these forms, and reading a selector is the grammar applied to the trimmed text (`parse_eq_iff`).
-/

set_option autoImplicit false

namespace GameShelf

namespace Text

variable {t : Text} {c : Char}

/-- Two runs of digits with a hyphen between them. -/
def DigitRange (t : Text) : Prop :=
  ∃ front rear : Text, t = front ++ '-' :: rear ∧ front.DigitRun ∧ rear.DigitRun

/-- A text with a character that is no letter is not `all`. -/
theorem not_all_of_mem (hmem : c ∈ t) (hc : c.isAlpha = false) :
    t.sameIgnoringAsciiCase "all".toList = false := by
  rw [← Bool.not_eq_true, sameIgnoringAsciiCase_iff]
  intro hsame
  have hkept : c ∈ lowerAscii "all".toList := by
    rw [← hsame]
    exact List.mem_map.2 ⟨c, hmem, toLower_of_not_isAlpha hc⟩
  have hletters : (lowerAscii "all".toList).all Char.isAlpha = true := by decide
  rw [List.all_eq_true.1 hletters c hkept] at hc
  cases hc

theorem DigitRun.not_all (h : t.DigitRun) : t.sameIgnoringAsciiCase "all".toList = false := by
  rcases List.exists_mem_of_ne_nil t h.1 with ⟨c, hc⟩
  exact not_all_of_mem hc (isAlpha_of_isDecimalDigit (h.2 c hc))

theorem DigitRange.hyphen_mem (h : t.DigitRange) : '-' ∈ t := by
  rcases h with ⟨front, rear, rfl, -, -⟩
  exact List.mem_append_right front List.mem_cons_self

theorem DigitRange.not_all (h : t.DigitRange) :
    t.sameIgnoringAsciiCase "all".toList = false :=
  not_all_of_mem h.hyphen_mem (by decide)

theorem DigitRange.not_digitRun (h : t.DigitRange) : ¬ t.DigitRun :=
  fun hrun => hrun.hyphen_not_mem h.hyphen_mem

end Text

namespace Selector

variable {t front rear : Text} {selector : Selector}

/-- What a trimmed text is read as. -/
inductive Reads (t : Text) : Selector → Prop where
  | all (hall : t.sameIgnoringAsciiCase "all".toList = true) : Reads t .all
  | index (hrun : t.DigitRun) : Reads t (.index (readPosition t))
  | range {front rear : Text} (heq : t = front ++ '-' :: rear) (hfront : front.DigitRun)
      (hrear : rear.DigitRun) : Reads t (.range (readPosition front) (readPosition rear))
  | text (hall : t.sameIgnoringAsciiCase "all".toList = false) (hrun : ¬ t.DigitRun)
      (hrange : ¬ t.DigitRange) : Reads t (.text t)

theorem isDigitRun_iff : isDigitRun t = true ↔ t.DigitRun := by
  rw [isDigitRun, Bool.and_eq_true, Bool.not_eq_true', List.isEmpty_eq_false_iff,
    List.all_eq_true]
  exact Iff.rfl

/-- A text is split where its only hyphen is, between two runs of digits. -/
theorem splitRange?_eq_some_iff :
    splitRange? t = some (front, rear) ↔
      t = front ++ '-' :: rear ∧ front.DigitRun ∧ rear.DigitRun := by
  constructor
  · intro h
    rw [splitRange?] at h
    split at h
    next start stop hsplit =>
        split at h
        next hruns =>
            cases h
            rw [Bool.and_eq_true, isDigitRun_iff, isDigitRun_iff] at hruns
            have hjoin : ['-'].intercalate (t.splitOn '-') = t := List.intercalate_splitOn '-'
            rw [hsplit] at hjoin
            exact ⟨by simpa [List.intercalate] using hjoin.symm, hruns⟩
        next => cases h
    next => cases h
  · rintro ⟨rfl, hfront, hrear⟩
    have hsplit : (front ++ '-' :: rear).splitOn '-' = [front, rear] := by
      rw [List.splitOn_append_cons_self, List.splitOn_eq_singleton hfront.hyphen_not_mem,
        List.splitOn_eq_singleton hrear.hyphen_not_mem]
      rfl
    simp [splitRange?, hsplit, isDigitRun_iff.2 hfront, isDigitRun_iff.2 hrear]

theorem splitRange?_eq_none_iff : splitRange? t = none ↔ ¬ t.DigitRange := by
  rw [← not_iff_not, not_not, ← ne_eq, Option.ne_none_iff_exists']
  constructor
  · rintro ⟨⟨front, rear⟩, h⟩
    exact ⟨front, rear, splitRange?_eq_some_iff.1 h⟩
  · rintro ⟨front, rear, h⟩
    exact ⟨(front, rear), splitRange?_eq_some_iff.2 h⟩

/-- Whatever is read is one of the forms. -/
theorem reads_parse (t : Text) : Reads t.trim (parse t) := by
  rw [parse]
  split
  next hall => exact .all hall
  next hall =>
      rw [Bool.not_eq_true] at hall
      split
      next hrun => exact .index (isDigitRun_iff.1 hrun)
      next hrun =>
          rw [isDigitRun_iff] at hrun
          split
          next start stop hsplit =>
              rcases splitRange?_eq_some_iff.1 hsplit with ⟨heq, hstart, hstop⟩
              exact .range heq hstart hstop
          next hsplit => exact .text hall hrun (splitRange?_eq_none_iff.1 hsplit)

/-- A text of one of the forms is read as such. -/
theorem Reads.parse (h : Reads t.trim selector) : parse t = selector := by
  cases h with
  | all hall => simp only [Selector.parse, hall, ↓reduceIte]
  | index hrun =>
      simp only [Selector.parse, hrun.not_all, isDigitRun_iff.2 hrun, Bool.false_eq_true,
        ↓reduceIte]
  | range heq hfront hrear =>
      have hform : t.trim.DigitRange := ⟨_, _, heq, hfront, hrear⟩
      have hsplit := splitRange?_eq_some_iff.2 ⟨heq, hfront, hrear⟩
      simp only [Selector.parse, hform.not_all, isDigitRun_iff, hform.not_digitRun, hsplit,
        Bool.false_eq_true, ↓reduceIte]
  | text hall hrun hrange =>
      simp only [Selector.parse, hall, isDigitRun_iff, hrun, splitRange?_eq_none_iff.2 hrange,
        Bool.false_eq_true, ↓reduceIte]

/-- Reading a selector is the grammar. -/
theorem parse_eq_iff : parse t = selector ↔ Reads t.trim selector := by
  constructor
  · rintro rfl
    exact reads_parse t
  · exact Reads.parse

theorem parse_eq_all_iff : parse t = .all ↔ t.trim.sameIgnoringAsciiCase "all".toList = true := by
  rw [parse_eq_iff]
  constructor
  · intro h
    cases h
    assumption
  · exact .all

theorem parse_index_iff {position : Nat} :
    parse t = .index position ↔ t.trim.DigitRun ∧ position = readPosition t.trim := by
  rw [parse_eq_iff]
  constructor
  · intro h
    cases h with
    | index hrun => exact ⟨hrun, rfl⟩
  · rintro ⟨hrun, rfl⟩
    exact .index hrun

theorem parse_range_iff {start stop : Nat} :
    parse t = .range start stop ↔ ∃ front rear : Text, t.trim = front ++ '-' :: rear ∧
      front.DigitRun ∧ rear.DigitRun ∧ start = readPosition front ∧ stop = readPosition rear := by
  rw [parse_eq_iff]
  constructor
  · intro h
    cases h with
    | range heq hfront hrear => exact ⟨_, _, heq, hfront, hrear, rfl, rfl⟩
  · rintro ⟨front, rear, heq, hfront, hrear, rfl, rfl⟩
    exact .range heq hfront hrear

theorem parse_text_iff {name : Text} :
    parse t = .text name ↔ name = t.trim ∧
      t.trim.sameIgnoringAsciiCase "all".toList = false ∧ ¬ t.trim.DigitRun ∧
        ¬ t.trim.DigitRange := by
  rw [parse_eq_iff]
  constructor
  · intro h
    cases h with
    | text hall hrun hrange => exact ⟨rfl, hall, hrun, hrange⟩
  · rintro ⟨rfl, hall, hrun, hrange⟩
    exact .text hall hrun hrange

/-- A selector that is neither `all` nor positional is the trimmed text itself. -/
theorem parse_eq_text (hall : parse t ≠ .all) (h : ¬ (parse t).IsPositional) :
    parse t = .text t.trim := by
  have hreads := reads_parse t
  generalize parse t = selector at hall h hreads
  cases hreads with
  | all => exact absurd rfl hall
  | index => exact absurd trivial h
  | range => exact absurd trivial h
  | text => rfl

/-- White space around a selector does not count. -/
theorem parse_trim (t : Text) : parse t.trim = parse t := by
  rw [parse, Text.trim_trim, parse]

end Selector
end GameShelf
