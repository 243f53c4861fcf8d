import GameShelf.Text.Basic

/-!
# Lines

A text is cut after each of its line feeds.  Texts that are written one after the other, each with a
line feed behind it, come back as the lines if none of them holds a line feed of its own.  Each one
that does adds a line, so the number of lines already tells whether they come back.
-/

set_option autoImplicit false

namespace GameShelf.Text

variable {a : Text} {ts : List Text}

/-- The lines of a text, each with the line feed that ends it; the last may go without. -/
def lines : Text → List Text
  | [] => []
  | c :: rest =>
    if c = '\n' then [c] :: lines rest
    else
      match lines rest with
      | [] => [[c]]
      | line :: others => (c :: line) :: others

/-- The texts, each on a line. -/
def unlines (ts : List Text) : Text :=
  ts.flatMap (· ++ ['\n'])

theorem lines_append_lineFeed (h : '\n' ∉ a) (b : Text) :
    lines (a ++ '\n' :: b) = (a ++ ['\n']) :: lines b := by
  induction a with
  | nil => simp [lines]
  | cons c rest ih =>
      rw [List.mem_cons, not_or] at h
      have hc : c ≠ '\n' := Ne.symm h.1
      simp [lines, hc, ih h.2]

example : lines "Go\n\nFish".toList = ["Go\n".toList, "\n".toList, "Fish".toList] := by
  decide

theorem length_lines_append_lineFeed (a b : Text) :
    (lines (a ++ '\n' :: b)).length = a.count '\n' + 1 + (lines b).length := by
  induction a with
  | nil => simp [lines, Nat.add_comm]
  | cons c rest ih =>
      by_cases hc : c = '\n'
      · subst hc
        have hfirst : lines ('\n' :: (rest ++ '\n' :: b)) = ['\n'] :: lines (rest ++ '\n' :: b) :=
          if_pos rfl
        rw [List.cons_append, hfirst, List.length_cons, ih, List.count_cons_self]
        omega
      · -- The character goes into the first line, and there is one.
        have hcount : (c :: rest).count '\n' = rest.count '\n' := by
          simp [hc]
        rw [hcount, ← ih, List.cons_append]
        cases hlines : lines (rest ++ '\n' :: b) with
        | nil =>
            rw [hlines, List.length_nil] at ih
            omega
        | cons line others => simp [lines, hc, hlines]

theorem lines_unlines (h : ∀ t ∈ ts, '\n' ∉ t) : lines (unlines ts) = ts.map (· ++ ['\n']) := by
  induction ts with
  | nil => rfl
  | cons t rest ih =>
      rw [List.forall_mem_cons] at h
      have hhead := lines_append_lineFeed h.1 (unlines rest)
      rw [ih h.2] at hhead
      simpa [unlines] using hhead

theorem length_lines_unlines (ts : List Text) :
    (lines (unlines ts)).length = ts.length + ts.flatten.count '\n' := by
  induction ts with
  | nil => rfl
  | cons t rest ih =>
      have hhead := length_lines_append_lineFeed t (unlines rest)
      rw [ih] at hhead
      simp only [unlines, List.flatMap_cons, List.append_assoc, List.singleton_append,
        List.length_cons, List.flatten_cons, List.count_append] at hhead ⊢
      omega

/-- Texts come back as lines exactly when no text holds a line feed. -/
theorem lines_unlines_eq_iff :
    lines (unlines ts) = ts.map (· ++ ['\n']) ↔ ∀ t ∈ ts, '\n' ∉ t := by
  refine ⟨?_, lines_unlines⟩
  intro hlines t ht
  have hlength := length_lines_unlines ts
  rw [hlines, List.length_map] at hlength
  -- No line is left over for a line feed inside a text.
  have hnone : ts.flatten.count '\n' = 0 := by
    omega
  intro hmem
  exact List.count_eq_zero.1 hnone (List.mem_flatten.2 ⟨t, ht, hmem⟩)

end GameShelf.Text
