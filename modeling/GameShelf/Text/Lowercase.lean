import GameShelf.Text.Cased
import GameShelf.Text.Lowercase.Table

/-!
# Lowercase

Two ways to lower a text are in use, and they are not the same function.

* `foldCase` lowers each character on its own.  Names are ordered and looked up by it.
* `lowercase` also sees the neighbours of a capital sigma: at the end of a word it becomes `ς`,
  elsewhere `σ`.  Field names and the text values of clauses are lowered by it.

Both use the full mapping, so `İ` becomes two characters.
-/

set_option autoImplicit false

namespace GameShelf.Text

/-- The lowercase of a single character. -/
def lowerChar (c : Char) : Text :=
  if c = 'İ' then ['i', '\u0307']
  else match lowercaseRuns.find? (·.covers c.toNat) with
    | some run => [Char.ofNat (run.move c.toNat)]
    | none => [c]

/-- Each character lowered on its own. -/
def foldCase (t : Text) : Text :=
  t.flatMap lowerChar

@[simp] theorem foldCase_nil : foldCase [] = [] := rfl

@[simp] theorem foldCase_append (a b : Text) : foldCase (a ++ b) = foldCase a ++ foldCase b := by
  simp [foldCase]

/-- Compares two texts by code point, ignoring case character by character. -/
def compareIgnoringCase (a b : Text) : Ordering :=
  compare (foldCase a) (foldCase b)

/-- Whether two texts differ at most in case. -/
def sameIgnoringCase (a b : Text) : Bool :=
  compareIgnoringCase a b == .eq

/-! ## The final sigma -/

/-- Whether the first character that is not case-ignorable is cased. -/
def startsCased (t : Text) : Bool :=
  match t.dropWhile isCaseIgnorable with
  | [] => false
  | c :: _ => isCased c

/-- The lowercase of `c` with `before` in front of it, nearest character first, and `after`
behind it. -/
def lowerCharWithin (before : Text) (c : Char) (after : Text) : Text :=
  if c = 'Σ' then
    if startsCased before && !startsCased after then ['ς'] else ['σ']
  else lowerChar c

/-- The lowercase of the text when `before`, nearest character first, stands in front of it. -/
def lowercaseAfter (before : Text) : Text → Text
  | [] => []
  | c :: rest => lowerCharWithin before c rest ++ lowercaseAfter (c :: before) rest

/-- The lowercase of a whole text. -/
def lowercase (t : Text) : Text :=
  lowercaseAfter [] t

/-- Without a capital sigma the neighbours do not matter. -/
theorem lowercaseAfter_eq_foldCase {t : Text} (h : 'Σ' ∉ t) (before : Text) :
    lowercaseAfter before t = foldCase t := by
  induction t generalizing before with
  | nil => rfl
  | cons c rest ih =>
      have hc : c ≠ 'Σ' := by
        intro hc
        exact h (by simp [hc])
      have hrest : 'Σ' ∉ rest := fun hmem => h (List.mem_cons_of_mem c hmem)
      simp [lowercaseAfter, lowerCharWithin, hc, ih hrest, foldCase]

end GameShelf.Text
