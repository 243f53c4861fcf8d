import GameShelf.Text.Basic

/-!
# Searching a text

`cut?` takes a text apart at the leftmost place where a token occurs.  Containment is the special
case that asks only whether there is such a place, so both agree on what an occurrence is.
-/

set_option autoImplicit false

namespace GameShelf.Text

/-- What stands in front of and behind the leftmost occurrence of the token. -/
def cut? : (t token : Text) → Option (Text × Text)
  | [], token => if token.isEmpty then some ([], []) else none
  | c :: rest, token =>
    if token.isPrefixOf (c :: rest) then some ([], (c :: rest).drop token.length)
    else (cut? rest token).map fun parts => (c :: parts.1, parts.2)

/-- Whether the pattern occurs in the text. -/
def includes (t pattern : Text) : Bool :=
  (t.cut? pattern).isSome

/-- The two parts of a cut enclose the token. -/
theorem eq_append_of_cut? {t token before after : Text}
    (h : t.cut? token = some (before, after)) : t = before ++ token ++ after := by
  induction t generalizing before with
  | nil =>
      cases token <;> simp_all [cut?]
  | cons c rest ih =>
      by_cases hp : token.isPrefixOf (c :: rest) = true
      · have hcut : some (([] : Text), (c :: rest).drop token.length) = some (before, after) := by
          simpa [cut?, hp] using h
        cases hcut
        obtain ⟨tail, htail⟩ := List.isPrefixOf_iff_prefix.1 hp
        simp [← htail]
      · simp only [cut?, hp, Bool.false_eq_true, ↓reduceIte, Option.map_eq_some_iff] at h
        obtain ⟨⟨front, back⟩, hfront, hparts⟩ := h
        cases hparts
        simp [ih hfront]

end GameShelf.Text
