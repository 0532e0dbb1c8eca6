/-!
# Widths of whole numbers

The whole numbers that a given number of bits can hold.

* `fitsSigned`: with a bit for the sign;
* `fitsUnsigned`: without one.
-/

namespace SchemaPages.Decimal

/-- Whether a whole number fits into `width` bits of which one is the sign. -/
def fitsSigned (width : Nat) (i : Int) : Bool :=
  decide (-(Nat.pow 2 (width - 1) : Int) ≤ i ∧ i < (Nat.pow 2 (width - 1) : Int))

/-- Whether a whole number fits into `width` bits without a sign. -/
def fitsUnsigned (width : Nat) (i : Int) : Bool :=
  decide (0 ≤ i ∧ i < (Nat.pow 2 width : Int))

end SchemaPages.Decimal
