import GameShelf.Text.Lowercase
import GameShelf.Text.Search
import Mathlib.Data.List.TakeWhile

/-!
# The case of ASCII letters in a text

`lowerAscii` puts the ASCII letters of a text in lower case and leaves everything else as it is.
Nothing that a text is taken apart at is an ASCII letter: neither white space nor commas, hyphens,
underscores and the tokens of operators.  So each operation on texts can be done before or after
`lowerAscii`.  Where the operation lowers the text itself it makes no difference at all, and this
includes the final sigma: the two letters of a pair are both cased, and neither is case-ignorable.
-/

set_option autoImplicit false

namespace GameShelf.Text

variable {t u token : Text} {c d : Char}

/-- The text with its ASCII letters in lower case. -/
def lowerAscii (t : Text) : Text :=
  t.map Char.toLower

@[simp] theorem lowerAscii_nil : lowerAscii [] = [] := rfl

@[simp] theorem lowerAscii_cons (c : Char) (t : Text) :
    lowerAscii (c :: t) = c.toLower :: lowerAscii t := rfl

@[simp] theorem isEmpty_lowerAscii (t : Text) : t.lowerAscii.isEmpty = t.isEmpty :=
  List.isEmpty_map

theorem sameIgnoringAsciiCase_iff :
    t.sameIgnoringAsciiCase u = true ↔ t.lowerAscii = u.lowerAscii :=
  beq_iff_eq

/-! ## Characters -/

/-- What is the same for each capital and its small letter does not see `toLower`. -/
theorem apply_toLower {α : Type} (f : Char → α)
    (h : ∀ n < 26, f (Char.ofNat ('A'.toNat + n)).toLower = f (Char.ofNat ('A'.toNat + n)))
    (c : Char) : f c.toLower = f c := by
  by_cases hupper : c.val ≥ 'A'.val ∧ c.val ≤ 'Z'.val
  · have hlow : 'A'.toNat ≤ c.toNat := hupper.1
    have hhigh : c.toNat ≤ 'Z'.toNat := hupper.2
    have hcapital : 'A'.toNat + (c.toNat - 'A'.toNat) = c.toNat := by
      omega
    have hbound : c.toNat - 'A'.toNat < 26 := by
      have hrange : 'Z'.toNat = 'A'.toNat + 25 := rfl
      omega
    have hletter := h (c.toNat - 'A'.toNat) hbound
    rwa [hcapital, Char.ofNat_toNat] at hletter
  · have hkept : c.toLower = c := dif_neg hupper
    rw [hkept]

@[simp] theorem toLower_toLower (c : Char) : c.toLower.toLower = c.toLower :=
  apply_toLower Char.toLower (by decide) c

@[simp] theorem isAlpha_toLower (c : Char) : c.toLower.isAlpha = c.isAlpha :=
  apply_toLower Char.isAlpha (by decide) c

@[simp] theorem isBlank_toLower (c : Char) : isBlank c.toLower = isBlank c :=
  apply_toLower isBlank (by decide) c

@[simp] theorem isCased_toLower (c : Char) : isCased c.toLower = isCased c :=
  apply_toLower isCased (by decide +kernel) c

@[simp] theorem lowerChar_toLower (c : Char) : lowerChar c.toLower = lowerChar c :=
  apply_toLower lowerChar (by decide +kernel) c

@[simp] theorem isDecimalDigit_toLower (c : Char) : isDecimalDigit c.toLower = isDecimalDigit c :=
  apply_toLower isDecimalDigit (by decide +kernel) c

/-- Only a character that is no letter itself is told from both cases of a letter. -/
theorem toLower_eq_iff (hd : d.isAlpha = false) : c.toLower = d ↔ c = d := by
  have hcapitals : ∀ n < 26, (Char.ofNat ('A'.toNat + n)).isAlpha = true ∧
      (Char.ofNat ('A'.toNat + n)).toLower.isAlpha = true := by
    decide
  have hsame : ∀ n < 26, ((Char.ofNat ('A'.toNat + n)).toLower = d) =
      (Char.ofNat ('A'.toNat + n) = d) := by
    intro n hn
    -- Neither letter is `d`.
    refine propext ⟨?_, ?_⟩
    · rintro rfl
      rw [(hcapitals n hn).2] at hd
      cases hd
    · rintro rfl
      rw [(hcapitals n hn).1] at hd
      cases hd
  exact iff_of_eq (apply_toLower (fun c => c = d) hsame c)

theorem toLower_of_not_isAlpha (hc : c.isAlpha = false) : c.toLower = c :=
  (toLower_eq_iff hc).2 rfl

theorem toNat_of_isAlpha (hc : c.isAlpha = true) :
    ('A'.toNat ≤ c.toNat ∧ c.toNat ≤ 'Z'.toNat) ∨ ('a'.toNat ≤ c.toNat ∧ c.toNat ≤ 'z'.toNat) := by
  have hcases : c.isUpper = true ∨ c.isLower = true := Bool.or_eq_true_iff.1 hc
  rcases hcases with hupper | hlower
  · exact Or.inl (of_decide_eq_true hupper)
  · have hbounds := Bool.and_eq_true_iff.1 hlower
    exact Or.inr ⟨of_decide_eq_true hbounds.1, of_decide_eq_true hbounds.2⟩

/-- No ASCII letter is in ranges that keep clear of both alphabets. -/
theorem inRanges_of_isAlpha {ranges : List (Nat × Nat)}
    (h : ranges.all (fun range => range.2 < 'A'.toNat ||
      'Z'.toNat < range.1 && range.2 < 'a'.toNat || 'z'.toNat < range.1) = true)
    (hc : c.isAlpha = true) : inRanges ranges c.toNat = false := by
  have hletter := toNat_of_isAlpha hc
  have horder : 'A'.toNat ≤ 'a'.toNat ∧ 'Z'.toNat ≤ 'z'.toNat := by decide
  refine List.any_eq_false.2 ?_
  intro range hrange
  have hclear := List.all_eq_true.1 h range hrange
  simp only [Bool.or_eq_true, Bool.and_eq_true, decide_eq_true_eq] at hclear ⊢
  omega

theorem isBlank_of_isAlpha (hc : c.isAlpha = true) : isBlank c = false :=
  inRanges_of_isAlpha (by decide) hc

theorem isCaseIgnorable_of_isAlpha (hc : c.isAlpha = true) : isCaseIgnorable c = false :=
  inRanges_of_isAlpha (by decide +kernel) hc

@[simp] theorem isCaseIgnorable_toLower (c : Char) :
    isCaseIgnorable c.toLower = isCaseIgnorable c := by
  cases hc : c.isAlpha with
  | false => rw [toLower_of_not_isAlpha hc]
  | true =>
      rw [isCaseIgnorable_of_isAlpha hc, isCaseIgnorable_of_isAlpha ((isAlpha_toLower c).trans hc)]

/-! ## Taking a text apart -/

theorem trimStart_lowerAscii (t : Text) : t.lowerAscii.trimStart = t.trimStart.lowerAscii := by
  simp [trimStart, lowerAscii, List.dropWhile_map, Function.comp_def]

theorem trimEnd_lowerAscii (t : Text) : t.lowerAscii.trimEnd = t.trimEnd.lowerAscii := by
  simp [trimEnd, lowerAscii, ← List.map_reverse, List.dropWhile_map, Function.comp_def]

theorem trim_lowerAscii (t : Text) : t.lowerAscii.trim = t.trim.lowerAscii := by
  rw [trim, trimStart_lowerAscii, trimEnd_lowerAscii, trim]

theorem splitOn_lowerAscii (hd : d.isAlpha = false) (t : Text) :
    t.lowerAscii.splitOn d = (t.splitOn d).map lowerAscii := by
  induction t with
  | nil => simp
  | cons c rest ih =>
      rw [lowerAscii_cons, List.splitOn_cons_eq_if_modifyHead, List.splitOn_cons_eq_if_modifyHead,
        ih]
      simp only [beq_iff_eq, toLower_eq_iff hd]
      split
      · rfl
      · -- The character goes into the first piece on both sides.
        cases rest.splitOn d <;> rfl

theorem pieces_lowerAscii (t : Text) : t.lowerAscii.pieces = t.pieces.map lowerAscii :=
  splitOn_lowerAscii (by decide) t

/-- Characters that are no letters are in the same places. -/
theorem isPrefix_lowerAscii_iff (htoken : ∀ c ∈ token, c.isAlpha = false) :
    token <+: t.lowerAscii ↔ token <+: t := by
  induction token generalizing t with
  | nil => simp
  | cons d token ih =>
      rw [List.forall_mem_cons] at htoken
      cases t with
      | nil => simp
      | cons c rest =>
          rw [lowerAscii_cons, List.cons_prefix_cons, List.cons_prefix_cons, ih htoken.2, eq_comm,
            toLower_eq_iff htoken.1, eq_comm]

theorem cut?_lowerAscii (htoken : ∀ c ∈ token, c.isAlpha = false) (t : Text) :
    t.lowerAscii.cut? token =
      (t.cut? token).map fun parts => (parts.1.lowerAscii, parts.2.lowerAscii) := by
  induction t with
  | nil => cases token <;> rfl
  | cons c rest ih =>
      have hprefix : token.isPrefixOf (lowerAscii (c :: rest)) =
          token.isPrefixOf (c :: rest) := by
        rw [Bool.eq_iff_iff, List.isPrefixOf_iff_prefix, List.isPrefixOf_iff_prefix]
        exact isPrefix_lowerAscii_iff htoken
      rw [lowerAscii_cons] at hprefix ⊢
      rw [cut?, cut?, hprefix, ih]
      split
      · simp [lowerAscii]
      · simp [Option.map_map, Function.comp_def]

theorem includes_lowerAscii (htoken : ∀ c ∈ token, c.isAlpha = false) (t : Text) :
    t.lowerAscii.includes token = t.includes token := by
  simp [includes, cut?_lowerAscii htoken]

theorem filter_ne_lowerAscii (hd : d.isAlpha = false) (t : Text) :
    t.lowerAscii.filter (· ≠ d) = Text.lowerAscii (t.filter (· ≠ d)) := by
  simp [lowerAscii, List.filter_map, Function.comp_def, toLower_eq_iff hd]

/-! ## Lowering a text -/

@[simp] theorem foldCase_lowerAscii (t : Text) : t.lowerAscii.foldCase = t.foldCase := by
  simp [foldCase, lowerAscii, List.flatMap_map]

theorem startsCased_lowerAscii (t : Text) : startsCased t.lowerAscii = startsCased t := by
  have hdrop : t.lowerAscii.dropWhile isCaseIgnorable =
      Text.lowerAscii (t.dropWhile isCaseIgnorable) := by
    simp [lowerAscii, List.dropWhile_map, Function.comp_def]
  rw [startsCased, startsCased, hdrop]
  cases t.dropWhile isCaseIgnorable with
  | nil => rfl
  | cons c rest => exact isCased_toLower c

/-- The neighbours of a sigma are what they were. -/
theorem lowerCharWithin_lowerAscii (before : Text) (c : Char) (after : Text) :
    lowerCharWithin before.lowerAscii c.toLower after.lowerAscii =
      lowerCharWithin before c after := by
  have hsigma : c.toLower = 'Σ' ↔ c = 'Σ' := toLower_eq_iff (by decide)
  simp only [lowerCharWithin, hsigma, startsCased_lowerAscii, lowerChar_toLower]

theorem lowercaseAfter_lowerAscii (before t : Text) :
    lowercaseAfter before.lowerAscii t.lowerAscii = lowercaseAfter before t := by
  induction t generalizing before with
  | nil => rfl
  | cons c rest ih =>
      have hrest := ih (c :: before)
      rw [lowerAscii_cons] at hrest
      rw [lowerAscii_cons, lowercaseAfter, lowercaseAfter, lowerCharWithin_lowerAscii, hrest]

@[simp] theorem lowercase_lowerAscii (t : Text) : t.lowerAscii.lowercase = t.lowercase :=
  lowercaseAfter_lowerAscii [] t

end GameShelf.Text
