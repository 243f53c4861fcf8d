import GameShelf.Csv.Fault
import GameShelf.Operator
import GameShelf.Storage

/-!
# Errors

Everything that can go wrong for a user, by cause.  `Error.message` is the wording and
`Error.category` the coarse class that a caller may branch on.
-/

set_option autoImplicit false

namespace GameShelf

/-- What is wrong with the form of a clause. -/
inductive ClauseFault where
  /-- No token of an operator occurs. -/
  | noOperator
  /-- The token does not split the clause into a field and a value. -/
  | shape (operator : Operator)
  /-- There is no field of this name. -/
  | unknownField (t : Text)
  deriving DecidableEq, Repr

/-- The wording of a fault. -/
def ClauseFault.message : ClauseFault → String
  | .noOperator => "unsupported or missing operator"
  | .shape operator => s!"expected 'field {operator.token} value'"
  | .unknownField t => s!"unknown field '{String.ofList t}'"

/-- The classes of errors. -/
inductive ErrorCategory where
  | malformedClause
  | malformedValue
  | unsupportedOperator
  | kindMismatch
  | invalidArgument
  | outOfRange
  | notSaved
  | notLoaded
  deriving DecidableEq, Repr

/-- What went wrong. -/
inductive Error where
  /-- A clause of a filter has no valid form. -/
  | malformedClause (clause : Text) (fault : ClauseFault)
  /-- The value of a clause is not of the field's kind. -/
  | malformedValue (field : Field) (value : Text) (fault : Numeral.Fault)
  /-- The operator does not apply to the field. -/
  | unsupportedOperator (field : Field) (operator : Operator)
  /-- A clause is built with a value of the wrong kind. -/
  | kindMismatch (expected actual : Kind)
  /-- Sorting without a key. -/
  | noSortKey
  /-- A sort key that names no field. -/
  | unknownSortKey (t : Text)
  /-- Adding by a text that is neither a name nor a selector. -/
  | unknownSelector (t : Text)
  /-- Removing a game that is not in the plan. -/
  | unknownGame (t : Text)
  /-- Removing a stretch in which there is no game. -/
  | nothingToRemove
  /-- A range that ends before it starts. -/
  | reversedRange (start stop : Nat)
  /-- A position that is not among those from one to the length. -/
  | outOfRange (position length : Nat)
  /-- A plan that cannot be written. -/
  | notSaved (path : Text) (fault : Storage.Fault)
  /-- A table that cannot be opened. -/
  | notOpened (fault : Storage.Fault)
  /-- A table with a fault. -/
  | notLoaded (fault : Csv.Fault)
  deriving DecidableEq, Repr

namespace Error

/-- The class of an error. -/
def category : Error → ErrorCategory
  | .malformedClause _ _ => .malformedClause
  | .malformedValue _ _ _ => .malformedValue
  | .unsupportedOperator _ _ => .unsupportedOperator
  | .kindMismatch _ _ => .kindMismatch
  | .noSortKey | .unknownSortKey _ | .unknownSelector _ | .unknownGame _
  | .nothingToRemove | .reversedRange _ _ => .invalidArgument
  | .outOfRange _ _ => .outOfRange
  | .notSaved _ _ => .notSaved
  | .notOpened _ | .notLoaded _ => .notLoaded

/-- The wording of an error. -/
def message : Error → String
  | .malformedClause clause fault =>
    s!"invalid filter clause '{String.ofList clause}': {fault.message}"
  | .malformedValue field value fault =>
    s!"cannot parse '{String.ofList value}' as a value for {field.filterName}: {fault.message}"
  | .unsupportedOperator field operator =>
    s!"operator '{operator.name}' is not supported for field {field.filterName}"
  | .kindMismatch expected actual =>
    s!"type mismatch: field expects {expected.name}, got {actual.name}"
  | .noSortKey => "sort field cannot be empty"
  | .unknownSortKey t => s!"unsupported sort field: {String.ofList t}"
  | .unknownSelector t => s!"invalid selector: {String.ofList t}"
  | .unknownGame t => s!"game not found: {String.ofList t}"
  | .nothingToRemove => "no valid games to remove"
  | .reversedRange start stop => s!"invalid range {start}-{stop}: end is before start"
  | .outOfRange position length => s!"index {position} out of range (1..={length})"
  | .notSaved path fault =>
    s!"failed to write game list to {String.ofList path}: {fault.message}"
  | .notOpened fault => s!"failed to load games: {fault.message}"
  | .notLoaded fault => s!"failed to load games: {fault.message}"

end Error
end GameShelf
