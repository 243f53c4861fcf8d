import GameShelf.Filter
import GameShelf.Order
import GameShelf.Proofs.Numeral.AsciiCase

/-!
# The case of ASCII letters in filters and sort keys

A filter reads the same after its ASCII letters have been put in lower case.  Field names are
lowered on the way, the tokens of operators have no letters, numerals are read in either case and
a text value is lowered when the clause is built.

Only the wording of an error quotes the filter as it was written, so a filter that is refused is
compared by the class of its error, `classified`.
-/

set_option autoImplicit false

namespace GameShelf

open Text (trim_lowerAscii lowercase_lowerAscii filter_ne_lowerAscii)

variable {α β : Type}

/-! ## Outcomes up to the class of the error -/

/-- The outcome with its error reduced to the class. -/
def classified : Except Error α → Except ErrorCategory α
  | .ok a => .ok a
  | .error e => .error e.category

@[simp] theorem classified_ok (a : α) : classified (.ok a : Except Error α) = .ok a := rfl

@[simp] theorem classified_error (e : Error) :
    classified (.error e : Except Error α) = .error e.category := rfl

@[simp] theorem classified_map (f : α → β) (x : Except Error α) :
    classified (x.map f) = (classified x).map f := by
  cases x with
  | ok a => rfl
  | error e => rfl

theorem classified_bind (x : Except Error α) (f : α → Except Error β) :
    classified (x >>= f) = classified x >>= fun a => classified (f a) := by
  cases x with
  | ok a => rfl
  | error e => rfl

/-! ## Fields and operators -/

theorem Operator.isAlpha_of_mem_token {operator : Operator} :
    ∀ c ∈ operator.token.toList, c.isAlpha = false := by
  have htoken : operator.token.toList.all (fun c => !c.isAlpha) = true := by
    cases operator <;> decide
  simpa using htoken

theorem Operator.detect?_lowerAscii (t : Text) : detect? t.lowerAscii = detect? t := by
  simp only [detect?, Text.includes_lowerAscii isAlpha_of_mem_token]

namespace Field

theorem normalizeName_lowerAscii (t : Text) : normalizeName t.lowerAscii = normalizeName t := by
  rw [normalizeName, filter_ne_lowerAscii (by decide), lowercase_lowerAscii, normalizeName]

theorem ofFilterText?_lowerAscii (t : Text) : ofFilterText? t.lowerAscii = ofFilterText? t := by
  rw [ofFilterText?, normalizeName_lowerAscii, ofFilterText?]

theorem ofSortKey?_lowerAscii (t : Text) : ofSortKey? t.lowerAscii = ofSortKey? t := by
  rw [ofSortKey?, trim_lowerAscii, normalizeName_lowerAscii, ofSortKey?]

/-- Up to the wording of the error, reading a sort key is looking it up. -/
theorem classified_parseSortKey_congr {s t : Text} (h : ofSortKey? s = ofSortKey? t) :
    classified (parseSortKey s) = classified (parseSortKey t) := by
  rw [parseSortKey, h, parseSortKey]
  cases ofSortKey? t with
  | none => rfl
  | some field => rfl

theorem classified_parseSortKey_lowerAscii (t : Text) :
    classified (parseSortKey t.lowerAscii) = classified (parseSortKey t) :=
  classified_parseSortKey_congr (ofSortKey?_lowerAscii t)

end Field

/-! ## Clauses -/

namespace Clause

theorem split?_lowerAscii (operator : Operator) (t : Text) :
    split? operator.token.toList t.lowerAscii =
      (split? operator.token.toList t).map fun texts =>
        (texts.1.lowerAscii, texts.2.lowerAscii) := by
  have htoken : ∀ c ∈ operator.token.toList, c.isAlpha = false := Operator.isAlpha_of_mem_token
  rw [split?, split?, Text.cut?_lowerAscii htoken]
  cases t.cut? operator.token.toList with
  | none => rfl
  | some parts =>
      -- No part becomes blank, and none gets a token.
      simp only [Option.map_some, Option.bind_eq_bind, Option.bind_some, trim_lowerAscii,
        Text.includes_lowerAscii htoken, Text.isEmpty_lowerAscii]
      split
      · rfl
      · rfl

/-- Building a clause sees of a value its kind and what it is in lower case. -/
theorem build_congr {field : Field} {operator : Operator} {value other : Value}
    (hkind : value.kind = other.kind) (hlowered : value.lowered = other.lowered) :
    build field operator value = build field operator other := by
  unfold build
  simp only [hkind, hlowered]

theorem classified_build_lowerAscii (field : Field) (operator : Operator) (t : Text) :
    classified (readFieldValue field t.lowerAscii >>= build field operator) =
      classified (readFieldValue field t >>= build field operator) := by
  cases hkind : field.kind with
  | text =>
      have hsame : build field operator (.text t.lowerAscii) = build field operator (.text t) := by
        refine build_congr rfl ?_
        rw [Value.lowered, lowercase_lowerAscii, Value.lowered]
      simp only [readFieldValue, hkind, readValue]
      exact congrArg classified hsame
  | integer =>
      simp only [readFieldValue, hkind, readValue, Numeral.readInt64_lowerAscii]
      cases Numeral.readInt64 t with
      | ok n => rfl
      | error fault => rfl
  | float =>
      simp only [readFieldValue, hkind, readValue, Numeral.readBinary64_lowerAscii]
      cases Numeral.readBinary64 t with
      | ok x => rfl
      | error fault => rfl

theorem classified_parse_lowerAscii (t : Text) :
    classified (parse t.lowerAscii) = classified (parse t) := by
  unfold parse
  rw [Operator.detect?_lowerAscii]
  cases Operator.detect? t with
  | none => rfl
  | some operator =>
      simp only [split?_lowerAscii]
      cases split? operator.token.toList t with
      | none => rfl
      | some texts =>
          simp only [Option.map_some, Field.ofFilterText?_lowerAscii]
          cases Field.ofFilterText? texts.1 with
          | none => rfl
          | some field => exact classified_build_lowerAscii field operator texts.2

end Clause

/-! ## Filters -/

namespace Filter

theorem classified_parsePieces_lowerAscii (pieces : List Text) :
    classified (parsePieces (pieces.map Text.lowerAscii)) = classified (parsePieces pieces) := by
  induction pieces with
  | nil => rfl
  | cons piece rest ih =>
      rw [List.map_cons, parsePieces, parsePieces]
      simp only [classified_bind, trim_lowerAscii, Clause.classified_parse_lowerAscii, ih]

theorem classified_parse_lowerAscii (t : Text) :
    classified (parse t.lowerAscii) = classified (parse t) := by
  have hblank : t.lowerAscii.trim.isEmpty = t.trim.isEmpty := by
    rw [trim_lowerAscii, Text.isEmpty_lowerAscii]
  unfold parse
  rw [hblank]
  split
  · rfl
  · rw [Text.pieces_lowerAscii, classified_parsePieces_lowerAscii]

end Filter
end GameShelf
