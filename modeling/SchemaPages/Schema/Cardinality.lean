import SchemaPages.Schema.Slot
/-!
# Cardinalities and bounds in words

* `Slot.bounds`: how many values a slot may have;
* `Slot.cardinality`: the same as text, with a mark on recommended slots;
* `boundsText?`: the range of numbers between two bounds.
-/

namespace SchemaPages

/-- How many values there may be: from `least`, up to `most` if there is a limit. -/
structure Bounds where
  least : Nat
  most : Option Nat
  deriving DecidableEq, Repr

/-- The text of bounds. -/
def Bounds.text (b : Bounds) : String :=
  match b.least, b.most with
  | 0, some 1 => "0..1"
  | 0, none => "*"
  | 1, some 1 => "1"
  | n, some m => toString n ++ ".." ++ toString m
  | n, none => toString n ++ "..*"

namespace Slot

/-- The bounds of a slot without an exact cardinality: a required or identifying slot has at least
one value, and a slot with several values has no limit. -/
def openBounds (s : Slot) : Bounds where
  least := if s.isRequired || s.isIdentifier then 1 else s.minimumCardinality.getD 0
  most := if s.isMultivalued then none else some (s.maximumCardinality.getD 1)

/-- How many values a slot may have. -/
def bounds (s : Slot) : Bounds :=
  match s.exactCardinality with
  | some n => ⟨n, some n⟩
  | none => s.openBounds

/-- The mark on recommended slots. -/
def recommendedMark : String := " _recommended_"

/-- How many values a slot may have, in words. -/
def cardinality (s : Slot) : String :=
  (match s.exactCardinality with
    | some n => toString n
    | none => s.openBounds.text) ++ if s.isRecommended then recommendedMark else ""

end Slot

/-- The numbers between two bounds, in words. -/
def boundsText? : Option Number → Option Number → Option String
  | some low, some high => some (Json.numberText low ++ " to " ++ Json.numberText high)
  | some low, none => some (">= " ++ Json.numberText low)
  | none, some high => some ("<= " ++ Json.numberText high)
  | none, none => none

/-- The values of a slot with bounds, in words. -/
def Slot.valueRange (s : Slot) : Option String := boundsText? s.minimumValue s.maximumValue

end SchemaPages
