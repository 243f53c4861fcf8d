import GameShelf.Proofs.Text.AsciiCase
import GameShelf.Proofs.Text.Lowered
import Mathlib.Data.List.Forall2

/-!
# Texts that are lowered to small ASCII letters

Names of fields are written in small ASCII letters, so it has to be known which texts become such a
name when they are lowered.  Besides the small and the capital letter there is one more character
that becomes an ASCII letter: the Kelvin sign, which becomes a `k`.  The letter `İ` becomes an `i`
and a dot above it, and the dot is in no name; a capital sigma becomes a Greek letter wherever it
stands.  So the text has as many characters as the name, and each of them is a form of the letter
in its place (`lowercase_eq_iff`).
-/

set_option autoImplicit false

namespace GameShelf.Text

/-- The character is the small letter or its capital; for a `k` it may be the Kelvin sign. -/
def IsFormOf (c letter : Char) : Prop :=
  c.toLower = letter ∨ (c = '\u212A' ∧ letter = 'k')

variable {c d : Char} {before t name : Text}

theorem isAlpha_of_isLower (hd : d.isLower = true) : d.isAlpha = true :=
  Bool.or_eq_true_iff.2 (Or.inr hd)

/-! ## Characters -/

theorem lowerChar_of_isAlpha (hc : c.isAlpha = true) : lowerChar c = [c.toLower] := by
  have hsmall : ∀ n < 26, lowerChar (Char.ofNat ('a'.toNat + n)) =
      [(Char.ofNat ('a'.toNat + n)).toLower] := by
    decide +kernel
  have hcapital : ∀ n < 26, lowerChar (Char.ofNat ('A'.toNat + n)) =
      [(Char.ofNat ('A'.toNat + n)).toLower] := by
    decide +kernel
  have hsize : 'Z'.toNat = 'A'.toNat + 25 ∧ 'z'.toNat = 'a'.toNat + 25 := ⟨rfl, rfl⟩
  rcases toNat_of_isAlpha hc with ⟨hlow, hhigh⟩ | ⟨hlow, hhigh⟩
  · have hletter := hcapital (c.toNat - 'A'.toNat) (by omega)
    rwa [Nat.add_sub_cancel' hlow, Char.ofNat_toNat] at hletter
  · have hletter := hsmall (c.toNat - 'a'.toNat) (by omega)
    rwa [Nat.add_sub_cancel' hlow, Char.ofNat_toNat] at hletter

/-- Two runs of the table have images among the ASCII characters. -/
theorem CaseRun.ascii_of_mem : ∀ run ∈ lowercaseRuns, 0x80 ≤ run.target ∨
    run = ⟨0x0041, 0x005A, 1, 0x0061⟩ ∨ run = ⟨0x212A, 0x212A, 1, 0x006B⟩ := by
  decide +kernel

/-- Of the characters that are no ASCII letters the Kelvin sign alone becomes one. -/
theorem eq_kelvin_of_lowerChar (hc : c.isAlpha = false) (hd : d.isLower = true)
    (h : lowerChar c = [d]) : c = '\u212A' ∧ d = 'k' := by
  rcases lowerChar_cases c with hdot | hkept | ⟨run, hrun, hcovers, hmoved⟩
  · rw [hdot] at h
    cases h
  · have hsame : c = d := List.singleton_inj.1 (hkept.symm.trans h)
    rw [hsame, isAlpha_of_isLower hd] at hc
    cases hc
  · have himage : d.toNat = run.target + (c.toNat - run.first) := by
      rw [← List.singleton_inj.1 (hmoved.symm.trans h), CaseRun.toNat_move hrun hcovers,
        CaseRun.move]
    have hbounds := CaseRun.covers_iff.1 hcovers
    rcases CaseRun.ascii_of_mem run hrun with hbeyond | rfl | rfl
    · have hsmall : d.toNat ≤ 'z'.toNat := of_decide_eq_true (Bool.and_eq_true_iff.1 hd).2
      have hz : 'z'.toNat = 0x7A := rfl
      omega
    · -- This run moves the ASCII capitals.
      have hcapital : c.isUpper = true := decide_eq_true ⟨hbounds.1, hbounds.2.1⟩
      have halpha : c.isAlpha = true := Bool.or_eq_true_iff.2 (Or.inl hcapital)
      rw [hc] at halpha
      cases halpha
    · have hkelvin : c.toNat = '\u212A'.toNat := le_antisymm hbounds.2.1 hbounds.1
      have hk : d.toNat = 'k'.toNat := by
        rw [himage, hkelvin]
        rfl
      exact ⟨Char.toNat_inj.1 hkelvin, Char.toNat_inj.1 hk⟩

theorem lowerChar_eq_singleton_iff (hd : d.isLower = true) :
    lowerChar c = [d] ↔ IsFormOf c d := by
  constructor
  · intro h
    cases hc : c.isAlpha with
    | true =>
        rw [lowerChar_of_isAlpha hc] at h
        exact Or.inl (List.singleton_inj.1 h)
    | false => exact Or.inr (eq_kelvin_of_lowerChar hc hd h)
  · rintro (hcase | ⟨rfl, rfl⟩)
    · have hc : c.isAlpha = true := by
        rw [← isAlpha_toLower, hcase]
        exact isAlpha_of_isLower hd
      rw [lowerChar_of_isAlpha hc, hcase]
    · decide +kernel

/-- The neighbours of a character do not matter here: no sigma is an ASCII letter. -/
theorem lowerCharWithin_eq_singleton_iff (hd : d.isLower = true) (before after : Text) :
    lowerCharWithin before c after = [d] ↔ IsFormOf c d := by
  rcases lowerCharWithin_cases before c after with hsame | ⟨rfl, -, -, hfinal⟩
  · rw [hsame, lowerChar_eq_singleton_iff hd]
  · have hsigmas : ∀ sigma ∈ ['σ', 'ς'], sigma ≠ d := by
      have hnot : ['σ', 'ς'].all (fun sigma => !sigma.isLower) = true := by decide
      rintro sigma hmem rfl
      have hsmall := List.all_eq_true.1 hnot sigma hmem
      rw [hd] at hsmall
      cases hsmall
    rw [hfinal, ← lowerChar_eq_singleton_iff hd, lowerChar_sigma, List.singleton_inj,
      List.singleton_inj]
    exact iff_of_false (hsigmas 'ς' (by simp)) (hsigmas 'σ' (by simp))

/-- Only the lowercase of `İ` is more than one character. -/
theorem lowerChar_singleton_or (c : Char) : (∃ d, lowerChar c = [d]) ∨ '\u0307' ∈ lowerChar c := by
  rcases lowerChar_cases c with hdot | hkept | ⟨run, -, -, hmoved⟩
  · right
    simp [hdot]
  · exact Or.inl ⟨c, hkept⟩
  · exact Or.inl ⟨Char.ofNat (run.move c.toNat), hmoved⟩

theorem lowerCharWithin_singleton_or (before : Text) (c : Char) (after : Text) :
    (∃ d, lowerCharWithin before c after = [d]) ∨ '\u0307' ∈ lowerCharWithin before c after := by
  rcases lowerCharWithin_cases before c after with hsame | ⟨-, -, -, hfinal⟩
  · rw [hsame]
    exact lowerChar_singleton_or c
  · exact Or.inl ⟨'ς', hfinal⟩

/-! ## Texts -/

theorem lowercaseAfter_eq_iff (hname : name.all Char.isLower = true) (before : Text) :
    lowercaseAfter before t = name ↔ List.Forall₂ IsFormOf t name := by
  induction t generalizing before name with
  | nil =>
      rw [lowercaseAfter, List.forall₂_nil_left_iff]
      exact eq_comm
  | cons c rest ih =>
      rw [lowercaseAfter]
      constructor
      · intro heq
        rcases lowerCharWithin_singleton_or before c rest with ⟨d, hsingle⟩ | hdot
        · rw [hsingle] at heq
          subst heq
          have hsmall := Bool.and_eq_true_iff.1 hname
          exact List.Forall₂.cons
            ((lowerCharWithin_eq_singleton_iff hsmall.1 before rest).1 hsingle)
            ((ih hsmall.2 (c :: before)).1 rfl)
        · have hmem : '\u0307' ∈ name := heq ▸ List.mem_append_left _ hdot
          exact absurd (List.all_eq_true.1 hname _ hmem) (by decide)
      · intro hforms
        cases hforms with
        | cons hform hrest =>
            have hsmall := Bool.and_eq_true_iff.1 hname
            rw [(lowerCharWithin_eq_singleton_iff hsmall.1 before rest).2 hform,
              (ih hsmall.2 (c :: before)).2 hrest]
            rfl

/-- A text is lowered to a name in small letters exactly if it consists of forms of them. -/
theorem lowercase_eq_iff (hname : name.all Char.isLower = true) :
    t.lowercase = name ↔ List.Forall₂ IsFormOf t name :=
  lowercaseAfter_eq_iff hname []

end GameShelf.Text
