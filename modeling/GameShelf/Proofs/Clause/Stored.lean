import GameShelf.Proofs.Clause.Grammar
import GameShelf.Proofs.Text.Lowered

/-!
# Building a clause again

A clause is not changed by being built again from its own parts.  The checks of the operator and of
the kind pass as before, and numbers are stored as they are given, so everything depends on the
text: it is stored in lower case, and lowering it once more must leave it as it is.
-/

set_option autoImplicit false

namespace GameShelf

@[simp] theorem Value.lowered_lowered (value : Value) : value.lowered.lowered = value.lowered := by
  cases value with
  | text t => exact congrArg Value.text t.lowercase_lowercase
  | number n => rfl

namespace Clause

/-- A clause is built from its own parts exactly when its text, if it has one, is in lower case. -/
theorem build_self_iff (clause : Clause) :
    build clause.field clause.operator clause.value = .ok clause ↔
      clause.value.lowered = clause.value := by
  rw [build_eq_ok_iff]
  constructor
  · rintro ⟨-, -, -, -, hvalue⟩
    exact hvalue.symm
  · intro hlowered
    exact ⟨clause.operator_applies, clause.value_accepted, rfl, rfl, hlowered.symm⟩

/-- The lowercase of a text is its own lowercase, and a clause that was built from any parts is
built from its own parts, too, with the same value down to the bits of a number. -/
theorem build_stored :
    (∀ t : Text, t.lowercase.lowercase = t.lowercase) ∧
    ∀ (field : Field) (operator : Operator) (value : Value) (clause : Clause),
      build field operator value = .ok clause →
        build clause.field clause.operator clause.value = .ok clause := by
  refine ⟨Text.lowercase_lowercase, ?_⟩
  intro field operator value clause h
  rcases build_eq_ok_iff.1 h with ⟨-, -, -, -, hvalue⟩
  rw [build_self_iff, hvalue, Value.lowered_lowered]

/-- Capital sigmas within a word and at the end of one, behind a letter that becomes two. -/
theorem build_stored_final_sigma :
    ∃ clause, build .name .contains (.text "ΣΟΦΟΣ İΣ".toList) = .ok clause ∧
      clause.value = .text "σοφος i\u0307ς".toList ∧
      build .name .contains (.text "σοφος i\u0307ς".toList) = .ok clause := by
  let clause : Clause := ⟨.name, .contains, .text "σοφος i\u0307ς".toList, rfl, rfl⟩
  have hbuild : build .name .contains (.text "ΣΟΦΟΣ İΣ".toList) = .ok clause := by
    decide +kernel
  exact ⟨clause, hbuild, rfl, build_stored.2 .name .contains _ clause hbuild⟩

end Clause
end GameShelf
