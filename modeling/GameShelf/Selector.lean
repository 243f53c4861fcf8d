import GameShelf.Error
import GameShelf.Numeral.Integer

/-!
# Selectors

How games are picked from a list: all of them, one by its position, a range of positions, or else
by a text, which is then a name.  Positions count from one.

Digits of every script make a position, but only those of ASCII have a value here; a position with
others, or one too large to be held, is the largest that can be, which no list reaches.
-/

set_option autoImplicit false

namespace GameShelf

/-- What a selector text asks for. -/
inductive Selector where
  /-- Every game. -/
  | all
  /-- The game at a position. -/
  | index (position : Nat)
  /-- The games from one position to another, both included. -/
  | range (start stop : Nat)
  /-- A name. -/
  | text (t : Text)
  deriving DecidableEq, Repr

namespace Selector

/-- The largest position that can be held, `2 ^ 64 - 1`. -/
def maxPosition : Nat := 0xFFFFFFFFFFFFFFFF

/-- The position that a run of digits stands for. -/
def readPosition (digits : Text) : Nat :=
  match Numeral.readMagnitude 10 maxPosition .tooLarge 0 digits with
  | .ok n => n
  | .error _ => maxPosition

/-- Whether the text is a run of digits. -/
def isDigitRun (t : Text) : Bool :=
  !t.isEmpty && t.all Text.isDecimalDigit

/-- The two digit runs of a range. -/
def splitRange? (t : Text) : Option (Text × Text) :=
  match t.splitOn '-' with
  | [start, stop] => if isDigitRun start && isDigitRun stop then some (start, stop) else none
  | _ => none

/-- Reads a selector.  Every text is one. -/
def parse (text : Text) : Selector :=
  let t := text.trim
  if t.sameIgnoringAsciiCase "all".toList then .all
  else if isDigitRun t then .index (readPosition t)
  else
    match splitRange? t with
    | some (start, stop) => .range (readPosition start) (readPosition stop)
    | none => .text t

/-! ## Resolving positions -/

/-- A stretch of a list: the first and the last position, from zero. -/
structure Span where
  first : Nat
  last : Nat
  deriving DecidableEq, Repr

/-- Whether the stretch ends before it begins, so that no position is in it. -/
def Span.isEmpty (span : Span) : Bool :=
  span.last < span.first

/-- The elements of a list in the stretch. -/
def Span.slice {α : Type} (span : Span) (xs : List α) : List α :=
  (xs.drop span.first).take (span.last + 1 - span.first)

/-- The elements of a list outside the stretch. -/
def Span.erase {α : Type} (span : Span) (xs : List α) : List α :=
  xs.take span.first ++ xs.drop (span.last + 1)

/-- A position must be one of `1, …, length`. -/
def checkPosition (position length : Nat) : Except Error Unit :=
  if position = 0 ∨ length < position then .error (.outOfRange position length) else .ok ()

/-- The stretch that the selector means in a list of the given length.  A range may end beyond the
list.  `all` and names have none. -/
def resolve (selector : Selector) (length : Nat) : Except Error (Option Span) :=
  match selector with
  | .index position =>
    (checkPosition position length).map fun _ => some ⟨position - 1, position - 1⟩
  | .range start stop =>
    if stop < start then .error (.reversedRange start stop)
    else (checkPosition start length).map fun _ => some ⟨start - 1, min stop length - 1⟩
  | .all | .text _ => .ok none

end Selector
end GameShelf
