import GameShelf.Proofs.Text.FinalSigma
import GameShelf.Proofs.Utf8

/-!
# Lowered texts

A text is in lower case when each of its characters is its own lowercase.  These texts are exactly
the ones that `lowercase` leaves as they are, and exactly the ones that it gives, so lowering a text
twice is the same as lowering it once.  The final sigma does no harm: both small sigmas are their
own lowercase, and the neighbours of a letter matter only for the capital one, which no lowered text
has.

Of the table one thing has to be known: what one of its runs moves a character to is moved no
further by any run.  Comparing the runs two at a time shows this.
-/

set_option autoImplicit false

namespace GameShelf.Text

/-! ## The table -/

namespace CaseRun

/-- The images of the first run are all above the characters that the second one moves, or all below
them, or they fall between those that it moves in steps of two. -/
def misses (run other : CaseRun) : Bool :=
  -- The table is gone through once for each of its runs, so these are comparisons that are quick
  -- to evaluate.
  Nat.blt other.last run.target || Nat.blt (run.target + (run.last - run.first)) other.first ||
    (Nat.beq other.stride 2 && (Nat.beq run.stride 2 || Nat.beq run.first run.last) &&
      Nat.beq ((run.target + other.first) % 2) 1)

variable {run other : CaseRun} {n : Nat}

theorem covers_iff :
    run.covers n = true ↔ run.first ≤ n ∧ n ≤ run.last ∧ (n - run.first) % run.stride = 0 := by
  simp only [covers, Bool.and_eq_true, decide_eq_true_eq, beq_iff_eq, and_assoc]

theorem covers_move_of_misses (h : run.misses other = true) (hn : run.covers n = true) :
    other.covers (run.move n) = false := by
  rw [← Bool.not_eq_true, covers_iff, move]
  rw [covers_iff] at hn
  simp only [misses, Bool.or_eq_true, Bool.and_eq_true, Nat.blt_eq, Nat.beq_eq] at h
  rintro ⟨hlow, hhigh, hstep⟩
  rcases h with (habove | hbelow) | ⟨⟨hother, hrun⟩, hodd⟩
  · omega
  · omega
  · -- An image is an even distance from the first one, which is an odd one from `other.first`.
    rw [hother] at hstep
    have heven : (n - run.first) % 2 = 0 := by
      rcases hrun with hstride | hsingle
      · rw [← hstride]
        exact hn.2.2
      · omega
    omega

/-- No run moves what another one has moved to. -/
theorem all_misses : (lowercaseRuns.all fun run => lowercaseRuns.all run.misses) = true := by
  decide +kernel

theorem misses_of_mem (hrun : run ∈ lowercaseRuns) (hother : other ∈ lowercaseRuns) :
    run.misses other = true :=
  List.all_eq_true.1 (List.all_eq_true.1 all_misses run hrun) other hother

/-- The images are characters, and none of them is `İ`. -/
theorem image_of_mem : ∀ run ∈ lowercaseRuns,
    (run.target + (run.last - run.first) < 0xD800 ∨
      0xE000 ≤ run.target ∧ run.target + (run.last - run.first) < 0x110000) ∧
    (run.target + (run.last - run.first) < 'İ'.toNat ∨ 'İ'.toNat < run.target) := by
  decide +kernel

theorem toNat_move (hrun : run ∈ lowercaseRuns) (hn : run.covers n = true) :
    (Char.ofNat (run.move n)).toNat = run.move n := by
  have himage := (image_of_mem run hrun).1
  have hbounds := covers_iff.1 hn
  apply Utf8.toNat_charOfNat
  simp only [move]
  omega

end CaseRun

/-! ## Characters -/

variable {c d : Char} {t : Text}

/-- What no run moves is its own lowercase. -/
theorem lowerChar_eq_self (hdot : c ≠ 'İ')
    (h : ∀ run ∈ lowercaseRuns, run.covers c.toNat = false) : lowerChar c = [c] := by
  have hnone : lowercaseRuns.find? (·.covers c.toNat) = none :=
    List.find?_eq_none.2 fun run hrun => by simp [h run hrun]
  rw [lowerChar, if_neg hdot, hnone]

/-- All that can become of a character: `İ` becomes two, others stay or are moved by a run. -/
theorem lowerChar_cases (c : Char) :
    lowerChar c = ['i', '\u0307'] ∨ lowerChar c = [c] ∨
      ∃ run ∈ lowercaseRuns, run.covers c.toNat = true ∧
        lowerChar c = [Char.ofNat (run.move c.toNat)] := by
  by_cases hdot : c = 'İ'
  · left
    rw [lowerChar, if_pos hdot]
  · right
    rw [lowerChar, if_neg hdot]
    cases hfind : lowercaseRuns.find? (·.covers c.toNat) with
    | none => exact Or.inl rfl
    | some run =>
        exact Or.inr ⟨run, List.mem_of_find?_eq_some hfind,
          List.find?_some (p := fun run : CaseRun => run.covers c.toNat) hfind, rfl⟩

/-- The lowercase of a character is in lower case. -/
theorem lowerChar_of_mem_lowerChar (h : d ∈ lowerChar c) : lowerChar d = [d] := by
  rcases lowerChar_cases c with hdot | hkept | ⟨run, hrun, hcovers, hmoved⟩
  · have hfixed : ∀ n ∈ ['i'.toNat, '\u0307'.toNat],
        ∀ run ∈ lowercaseRuns, run.covers n = false := by
      decide +kernel
    have hletter : d = 'i' ∨ d = '\u0307' := by
      simpa [hdot] using h
    rcases hletter with rfl | rfl
    · exact lowerChar_eq_self (by decide) (hfixed _ (by simp))
    · exact lowerChar_eq_self (by decide) (hfixed _ (by simp))
  · rw [hkept, List.mem_singleton] at h
    rw [h, hkept]
  · rw [hmoved, List.mem_singleton] at h
    have himage : d.toNat = run.move c.toNat := by
      rw [h, CaseRun.toNat_move hrun hcovers]
    refine lowerChar_eq_self ?_ ?_
    · rintro rfl
      have hbounds := CaseRun.covers_iff.1 hcovers
      have haway := (CaseRun.image_of_mem run hrun).2
      rw [CaseRun.move] at himage
      omega
    · intro other hother
      rw [himage]
      exact CaseRun.covers_move_of_misses (CaseRun.misses_of_mem hrun hother) hcovers

/-! ## Texts -/

/-- Each character of the text is its own lowercase. -/
def Lowered (t : Text) : Prop :=
  ∀ c ∈ t, lowerChar c = [c]

theorem Lowered.foldCase_eq (h : Lowered t) : t.foldCase = t := by
  induction t with
  | nil => rfl
  | cons c rest ih =>
      have hc : lowerChar c = [c] := h c List.mem_cons_self
      have hrest : foldCase rest = rest := ih fun d hd => h d (List.mem_cons_of_mem c hd)
      change lowerChar c ++ foldCase rest = c :: rest
      rw [hc, hrest]
      rfl

theorem Lowered.sigma_not_mem (h : Lowered t) : 'Σ' ∉ t := by
  intro hmem
  have hsigma := h 'Σ' hmem
  rw [lowerChar_sigma] at hsigma
  exact absurd hsigma (by decide)

/-- Also at the end of a word a character becomes one that is in lower case. -/
theorem lowered_lowerCharWithin (before : Text) (c : Char) (after : Text) :
    Lowered (lowerCharWithin before c after) := by
  intro d hd
  rcases lowerCharWithin_cases before c after with hsame | ⟨-, -, -, hfinal⟩
  · rw [hsame] at hd
    exact lowerChar_of_mem_lowerChar hd
  · rw [hfinal, List.mem_singleton] at hd
    rw [hd]
    decide +kernel

theorem lowered_lowercaseAfter (before t : Text) : Lowered (lowercaseAfter before t) := by
  induction t generalizing before with
  | nil =>
      intro c hc
      cases hc
  | cons c rest ih =>
      exact List.forall_mem_append.2 ⟨lowered_lowerCharWithin before c rest, ih (c :: before)⟩

/-- `lowercase` leaves a text as it is exactly when the text is in lower case. -/
theorem lowercase_eq_self_iff : t.lowercase = t ↔ Lowered t := by
  constructor
  · intro heq
    rw [← heq]
    exact lowered_lowercaseAfter [] t
  · intro h
    rw [lowercase, lowercaseAfter_eq_foldCase h.sigma_not_mem, h.foldCase_eq]

theorem lowercase_lowercase (t : Text) : t.lowercase.lowercase = t.lowercase :=
  lowercase_eq_self_iff.2 (lowered_lowercaseAfter [] t)

end GameShelf.Text
