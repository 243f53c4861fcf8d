import GameShelf.Text.Search
import Mathlib.Data.List.Infix

/-!
# Occurrences and leftmost cuts

The search functions are recursions over the text.  Here they are tied to the two notions they
stand for: `includes` is the infix relation on lists, and `cut?` takes a text apart at the one
occurrence of the token that no other occurrence precedes.
-/

set_option autoImplicit false

namespace GameShelf.Text

variable {t token before after : Text}

/-- The text is `before`, the token and `after`, and the token occurs nowhere further left. -/
structure LeftmostCut (token t before after : Text) : Prop where
  eq_append : t = before ++ token ++ after
  leftmost : ∀ front back : Text, t = front ++ token ++ back → before.length ≤ front.length

/-- There is only one leftmost place. -/
theorem LeftmostCut.unique {before' after' : Text} (h : LeftmostCut token t before after)
    (h' : LeftmostCut token t before' after') : before = before' ∧ after = after' := by
  have hlength : before.length = before'.length :=
    le_antisymm (h.leftmost _ _ h'.eq_append) (h'.leftmost _ _ h.eq_append)
  have happend : before ++ (token ++ after) = before' ++ (token ++ after') := by
    rw [← List.append_assoc, ← List.append_assoc, ← h.eq_append, ← h'.eq_append]
  rcases List.append_inj happend hlength with ⟨hbefore, hrest⟩
  exact ⟨hbefore, List.append_cancel_left hrest⟩

/-! ## Cutting -/

theorem cut?_of_isPrefix {c : Char} {rest : Text} (h : token <+: c :: rest) :
    cut? (c :: rest) token = some ([], (c :: rest).drop token.length) := by
  simp [cut?, h]

theorem cut?_of_not_isPrefix {c : Char} {rest : Text} (h : ¬ token <+: c :: rest) :
    cut? (c :: rest) token = (cut? rest token).map fun parts => (c :: parts.1, parts.2) := by
  simp [cut?, h]

/-- A place of the token in `c :: rest` that is not at its start is a place in `rest`. -/
theorem exists_eq_cons_of_not_isPrefix {c : Char} {rest front back : Text}
    (h : ¬ token <+: c :: rest) (heq : c :: rest = front ++ token ++ back) :
    ∃ front', front = c :: front' ∧ rest = front' ++ token ++ back := by
  cases front with
  | nil =>
      exact absurd ⟨back, by simpa using heq.symm⟩ h
  | cons d front' =>
      have hcons : c = d ∧ rest = front' ++ token ++ back := by
        simpa using heq
      exact ⟨front', by rw [hcons.1], hcons.2⟩

/-- There is no cut exactly when the token does not occur. -/
theorem cut?_eq_none_iff : cut? t token = none ↔ ¬ token <:+: t := by
  induction t with
  | nil =>
      cases token with
      | nil => simp [cut?]
      | cons d token => simp [cut?]
  | cons c rest ih =>
      by_cases hp : token <+: c :: rest
      · have hin : token <:+: c :: rest := hp.isInfix
        simp [cut?_of_isPrefix hp, hin]
      · rw [cut?_of_not_isPrefix hp, Option.map_eq_none_iff, ih, List.infix_cons_iff]
        simp [hp]

/-- A pattern is included in a text exactly when it is a stretch of it. -/
theorem includes_iff_isInfix {pattern : Text} : t.includes pattern = true ↔ pattern <:+: t := by
  rw [includes, ← not_iff_not, Bool.not_eq_true, Option.isSome_eq_false_iff,
    Option.isNone_iff_eq_none, cut?_eq_none_iff]

/-- A token without the character `d` does not reach across it. -/
theorem isInfix_append_cons_iff {front back : Text} {d : Char} (hd : d ∉ token) :
    token <:+: front ++ d :: back ↔ token <:+: front ∨ token <:+: back := by
  constructor
  · rw [List.infix_append_iff, List.infix_cons_iff]
    rintro (hfront | (hbegins | hback) | ⟨start, rest, rfl, hstart, hrest⟩)
    · exact Or.inl hfront
    · cases token with
      | nil => exact Or.inl (List.nil_infix)
      | cons c token => exact absurd (by simp [(List.cons_prefix_cons.1 hbegins).1]) hd
    · exact Or.inr hback
    · cases rest with
      | nil => exact Or.inl (by simpa using hstart.isInfix)
      | cons c rest => exact absurd (by simp [(List.cons_prefix_cons.1 hrest).1]) hd
  · rintro (hfront | hback)
    · exact hfront.trans (List.prefix_append front (d :: back)).isInfix
    · exact hback.trans ((List.suffix_cons d back).trans (List.suffix_append front _)).isInfix

/-- Cutting finds a leftmost place. -/
theorem leftmostCut_of_cut? (h : t.cut? token = some (before, after)) :
    LeftmostCut token t before after := by
  refine ⟨eq_append_of_cut? h, ?_⟩
  induction t generalizing before with
  | nil =>
      intro front back heq
      have hnil := eq_append_of_cut? h
      simp_all
  | cons c rest ih =>
      by_cases hp : token <+: c :: rest
      · rw [cut?_of_isPrefix hp] at h
        cases h
        intro front back _
        exact Nat.zero_le _
      · rw [cut?_of_not_isPrefix hp, Option.map_eq_some_iff] at h
        rcases h with ⟨⟨start, rear⟩, hcut, hparts⟩
        cases hparts
        intro front back heq
        -- A place further left would start at `c`, which the token does not.
        rcases exists_eq_cons_of_not_isPrefix hp heq with ⟨front', rfl, hrest⟩
        exact Nat.succ_le_succ (ih hcut front' back hrest)

/-- `cut?` cuts at the leftmost place, and fails only where there is none. -/
theorem cut?_eq_some_iff :
    t.cut? token = some (before, after) ↔ LeftmostCut token t before after := by
  constructor
  · exact leftmostCut_of_cut?
  · intro h
    have hin : token <:+: t := ⟨before, after, h.eq_append.symm⟩
    cases hcut : t.cut? token with
    | none =>
        exact absurd hin (cut?_eq_none_iff.1 hcut)
    | some parts =>
        rcases parts with ⟨before', after'⟩
        rcases h.unique (leftmostCut_of_cut? hcut) with ⟨hbefore, hafter⟩
        rw [hbefore, hafter]

end GameShelf.Text
