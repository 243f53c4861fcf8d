import GameShelf.Error

/-!
# Clauses

A clause is one test of a filter: a field, an operator and a value.  A clause cannot be built with
an operator that does not apply to the field or with a value of the wrong kind, so no clause fails
to match for such a reason.  Integers are accepted for fields of either numeric kind.

The written form of a clause is `field operator value`.  Every occurrence of the operator's token
counts, so a value that holds the token again has no written form.
-/

set_option autoImplicit false

namespace GameShelf

/-- Whether a field of the first kind can be compared with a value of the second. -/
def Kind.accepts : Kind → Kind → Bool
  | .text, .text | .integer, .integer | .float, .integer | .float, .float => true
  | _, _ => false

/-- The value with its text in lower case. -/
def Value.lowered : Value → Value
  | .text t => .text t.lowercase
  | .number n => .number n

@[simp] theorem Value.kind_lowered (value : Value) : value.lowered.kind = value.kind := by
  cases value with
  | text => rfl
  | number => rfl

/-- A test of one field of a game.  The value's text is in lower case. -/
structure Clause where
  field : Field
  operator : Operator
  value : Value
  operator_applies : operator.appliesTo field.kind = true
  value_accepted : field.kind.accepts value.kind = true
  deriving DecidableEq, Repr

/-- Whether the operator holds for the outcome of a comparison.  Without an outcome, that is when a
NaN is involved, only inequality holds. -/
def Operator.holdsFor (operator : Operator) : Option Ordering → Bool
  | some order => operator.holds order
  | none => operator == .notEqual

namespace Clause

/-- Builds a clause from its parts. -/
def build (field : Field) (operator : Operator) (value : Value) : Except Error Clause :=
  if operator_applies : operator.appliesTo field.kind = true then
    if value_accepted : field.kind.accepts value.kind = true then
      .ok {
        field, operator, value := value.lowered, operator_applies
        value_accepted := by rw [Value.kind_lowered]; exact value_accepted }
    else .error (.kindMismatch field.kind value.kind)
  else .error (.unsupportedOperator field operator)

/-! ## Matching -/

/-- Whether a text stands in the relation of the operator to a pattern in lower case. -/
def textMatches (operator : Operator) (t pattern : Text) : Bool :=
  match operator with
  | .contains => t.lowercase.includes pattern
  | other => other.holds (compare t.lowercase pattern)

/-- Whether the game passes the test. -/
def test (clause : Clause) (game : Game) : Bool :=
  match clause.field.value game, clause.value with
  | .text t, .text pattern => textMatches clause.operator t pattern
  | .number n, .number m => clause.operator.holdsFor (n.compare? m)
  | _, _ => false

/-! ## The written form -/

/-- Reads a value of the kind.  A text is taken as it is. -/
def readValue : Kind → Text → Except Numeral.Fault Value
  | .text, t => .ok (.text t)
  | .integer, t => (Numeral.readInt64 t).map fun n => .number (.int n)
  | .float, t => (Numeral.readBinary64 t).map fun x => .number (.float x)

/-- Reads the value of a clause on the field. -/
def readFieldValue (field : Field) (t : Text) : Except Error Value :=
  (readValue field.kind t).mapError (.malformedValue field t)

/-- The texts in front of and behind the token, trimmed.  The token must occur exactly once and
neither text may be blank. -/
def split? (token t : Text) : Option (Text × Text) := do
  let (before, after) ← t.cut? token
  let field := before.trim
  let value := after.trim
  if after.includes token || field.isEmpty || value.isEmpty then none
  else some (field, value)

/-- Reads a clause. -/
def parse (t : Text) : Except Error Clause := do
  let some operator := Operator.detect? t
    | throw (.malformedClause t .noOperator)
  let some (fieldText, valueText) := split? operator.token.toList t
    | throw (.malformedClause t (.shape operator))
  let some field := Field.ofFilterText? fieldText
    | throw (.malformedClause t (.unknownField fieldText))
  let value ← readFieldValue field valueText
  build field operator value

end Clause
end GameShelf
