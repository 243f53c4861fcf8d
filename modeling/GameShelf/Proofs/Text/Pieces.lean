import GameShelf.Text.Basic
import Mathlib.Data.List.DropRight
import Mathlib.Data.List.TakeWhile

/-!
# White space and commas

A text trims to nothing exactly when it is all white space.  The comma is no white space, so a
text with a comma in it is never blank, and a comma put between two texts puts their pieces side
by side.
-/

set_option autoImplicit false

namespace GameShelf.Text

variable {t : Text}

/-! ## Trimming -/

theorem trimStart_eq_nil_iff : t.trimStart = [] ↔ ∀ c ∈ t, isBlank c = true :=
  List.dropWhile_eq_nil_iff

theorem trimEnd_eq_nil_iff : t.trimEnd = [] ↔ ∀ c ∈ t, isBlank c = true := by
  rw [trimEnd, List.reverse_eq_nil_iff, List.dropWhile_eq_nil_iff]
  simp

/-- A text is blank exactly when all its characters are. -/
theorem trim_eq_nil_iff : t.trim = [] ↔ ∀ c ∈ t, isBlank c = true := by
  rw [trim, trimEnd_eq_nil_iff]
  constructor
  · intro hall
    -- What trimming the start leaves begins with a character that is not blank, if with any.
    refine trimStart_eq_nil_iff.1 ?_
    by_contra hne
    have hhead : isBlank (t.trimStart.head hne) = false :=
      List.head_dropWhile_not isBlank hne
    have hblank : isBlank (t.trimStart.head hne) = true :=
      hall _ (List.head_mem hne)
    rw [hhead] at hblank
    cases hblank
  · intro hall c hc
    exact hall c ((List.dropWhile_sublist isBlank).mem hc)

theorem trim_ne_nil_of_mem {c : Char} (hc : c ∈ t) (h : isBlank c = false) : t.trim ≠ [] := by
  intro htrim
  have hblank := trim_eq_nil_iff.1 htrim c hc
  rw [h] at hblank
  cases hblank

theorem isBlank_comma : isBlank ',' = false := by
  decide

/-- Trailing white space of a text is that of its second part, unless this is blank. -/
theorem trimEnd_append (a : Text) {b : Text} (h : b.trim ≠ []) :
    trimEnd (a ++ b) = a ++ b.trimEnd := by
  have hend : b.trimEnd ≠ [] := by
    rwa [ne_eq, trimEnd_eq_nil_iff, ← trim_eq_nil_iff]
  have hreverse : b.reverse.dropWhile isBlank ≠ [] := by
    simpa [trimEnd] using hend
  simp [trimEnd, List.dropWhile_append, hreverse]

/-- A blank second part goes as a whole. -/
theorem trimEnd_append_of_blank (a : Text) {b : Text} (h : b.trim = []) :
    trimEnd (a ++ b) = a.trimEnd := by
  have hend : b.trimEnd = [] := trimEnd_eq_nil_iff.2 (trim_eq_nil_iff.1 h)
  have hreverse : b.reverse.dropWhile isBlank = [] := by
    simpa [trimEnd] using hend
  simp [trimEnd, List.dropWhile_append, hreverse]

theorem trimEnd_isPrefix (t : Text) : t.trimEnd <+: t :=
  List.rdropWhile_prefix isBlank t

theorem trimEnd_trimEnd (t : Text) : t.trimEnd.trimEnd = t.trimEnd :=
  List.rdropWhile_idempotent isBlank t

/-- The two ends of a text can be trimmed in either order. -/
theorem trimStart_trimEnd (t : Text) : t.trimEnd.trimStart = t.trim := by
  induction t with
  | nil => rfl
  | cons c rest ih =>
      by_cases hc : isBlank c = true
      · have hstart : trim (c :: rest) = trim rest := by
          simp [trim, trimStart, hc]
        rw [hstart]
        by_cases hrest : trim rest = []
        · -- A blank character in front of a blank text: nothing is left on either side.
          have hend : trimEnd (c :: rest) = [] := by
            rw [trimEnd_eq_nil_iff, ← trim_eq_nil_iff, hstart]
            exact hrest
          rw [hend, hrest]
          rfl
        · have hend : trimEnd (c :: rest) = c :: trimEnd rest :=
            trimEnd_append [c] hrest
          rw [hend, ← ih]
          simp [trimStart, hc]
      · have hstart : trim (c :: rest) = trimEnd (c :: rest) := by
          simp [trim, trimStart, hc]
        rw [hstart]
        rcases trimEnd_isPrefix (c :: rest) with ⟨blank, hblank⟩
        cases hend : trimEnd (c :: rest) with
        | nil => rfl
        | cons d front =>
            rw [hend] at hblank
            cases hblank
            simp [trimStart, hc]

theorem trim_trimEnd (t : Text) : t.trimEnd.trim = t.trim := by
  calc
    t.trimEnd.trim = t.trim.trimEnd := by
      rw [trim, trimStart_trimEnd]
    _ = t.trim := trimEnd_trimEnd t.trimStart

theorem trim_sublist (t : Text) : t.trim.Sublist t :=
  (trimEnd_isPrefix t.trimStart).sublist.trans (List.dropWhile_sublist isBlank)

/-- A trimmed text has nothing left to trim. -/
theorem trim_trim (t : Text) : t.trim.trim = t.trim := by
  have hstart : t.trimStart.trimStart = t.trimStart := List.dropWhile_idempotent isBlank t
  calc
    t.trim.trim = t.trimStart.trim := trim_trimEnd t.trimStart
    _ = t.trim := by
      rw [trim, hstart, trim]

theorem trim_append_comma_ne_nil (a b : Text) : (a ++ ',' :: b).trim ≠ [] :=
  trim_ne_nil_of_mem (c := ',') (by simp) isBlank_comma

/-! ## Pieces -/

theorem pieces_append_comma (a b : Text) : pieces (a ++ ',' :: b) = pieces a ++ pieces b :=
  List.splitOn_append_cons_self a b

theorem pieces_of_not_mem (h : ',' ∉ t) : t.pieces = [t] :=
  List.splitOn_eq_singleton h

theorem exists_eq_append_comma (h : ',' ∈ t) :
    ∃ front behind : Text, t = front ++ ',' :: behind ∧ ',' ∉ front :=
  List.eq_append_cons_of_mem h

/-- There is a first piece, with which the text begins. -/
theorem exists_pieces_eq_cons (t : Text) :
    ∃ first rest, t.pieces = first :: rest ∧ first <+: t := by
  by_cases hcomma : ',' ∈ t
  · rcases exists_eq_append_comma hcomma with ⟨first, behind, rfl, hfirst⟩
    refine ⟨first, behind.pieces, ?_, List.prefix_append first (',' :: behind)⟩
    rw [pieces_append_comma, pieces_of_not_mem hfirst]
    rfl
  · exact ⟨t, [], pieces_of_not_mem hcomma, List.prefix_rfl⟩

/-- A blank text is its own only piece. -/
theorem pieces_of_blank (h : t.trim = []) : t.pieces = [t] := by
  refine pieces_of_not_mem ?_
  intro hmem
  exact trim_ne_nil_of_mem hmem isBlank_comma h

end GameShelf.Text
