import SchemaPages.Decimal.Width
import SchemaPages.Data.Value
/-!
# JSON numbers

A number without fraction and exponent that fits 64 bits, signed or not, is whole; any other is a
double. The double is computed from the digits that fit 64 bits and one power of ten, so it may
differ from the nearest double in its last bit.

* `readNumber`: the longest number at the start of a text;
* `layout`, `numberText`: how numbers are written.
-/

namespace SchemaPages.Json

/-- Digits taken into 64 bits, as far as they go. -/
structure Significand where
  /-- The digits read so far. -/
  value : Nat
  /-- How many of the digits read stand behind the point. -/
  places : Nat
  /-- How many further digits did not fit. -/
  dropped : Nat
  deriving DecidableEq, Repr

/-- The greatest number of 64 bits. -/
def maxWord : Nat := 0xFFFFFFFFFFFFFFFF

/-- The value of a digit. -/
def digitValue (c : Char) : Nat := c.toNat - '0'.toNat

/-- Takes digits until the next one does not fit; the rest is counted. -/
def takeDigits (value : Nat) : List Char → Nat × Nat × Nat
  | [] => (value, 0, 0)
  | c :: rest =>
    if maxWord < value * 10 + digitValue c then (value, 0, rest.length + 1)
    else
      let (v, taken, dropped) := takeDigits (value * 10 + digitValue c) rest
      (v, taken + 1, dropped)

/-- The power of ten `10 ^ n` as a double, for `n` up to 308. -/
def tenTo (n : Nat) : Float := Float.ofScientific 1 false n

/-- Divides by `10 ^ 308` until the exponent is in reach. A significand of 64 bits is zero after
three divisions. -/
def scaleDown : Nat → Float → Nat → Float
  | 0, _, _ => 0.0
  | steps + 1, f, n =>
    if n ≤ 308 then f / tenTo n
    else if f == 0.0 then f
    else scaleDown steps (f / tenTo 308) (n - 308)

/-- The double `value * 10 ^ exp`; `none` when it is too large. -/
def scaled (value : Nat) (exp : Int) : Option Float :=
  let f := Float.ofScientific value false 0
  if 0 ≤ exp then
    if exp ≤ 308 then
      let g := f * tenTo exp.toNat
      if Decimal.isFinite g.toBits then some g else none
    else if value = 0 then some f else none
  else some (scaleDown 4 f exp.natAbs)

/-- The double with the given sign. -/
def signed (negative : Bool) (f : Float) : Number :=
  .float (if negative then (-f).toBits else f.toBits)

/-- The greatest exponent that is counted. -/
def maxExponent : Nat := 0x7FFFFFFF

/-- The value of a number without its sign: whole part, digits behind the point if there is one,
and the exponent with its sign if there is one. -/
def numberOf (negative : Bool) (whole : List Char) (fraction : Option (List Char))
    (exponent : Option (Bool × List Char)) : Option Number :=
  let (w, _, droppedWhole) := takeDigits 0 whole
  match fraction, exponent with
  | none, none =>
    if 0 < droppedWhole then (scaled w droppedWhole).map (signed negative)
    else if !negative then some (.int w)
    else if w = 0 ∨ !Decimal.fitsSigned 64 (-(w : Int)) then some (signed true (Float.ofScientific w false 0))
    else some (.int (-(w : Int)))
  | _, _ =>
    let (v, places, _) := takeDigits w (fraction.getD [])
    let start : Int := (droppedWhole : Int) - places
    match exponent with
    | none => (scaled v start).map (signed negative)
    | some (down, digits) =>
      let e := digits.foldl (fun n c => n * 10 + digitValue c) 0
      if maxExponent < e then
        if v ≠ 0 ∧ !down then none else some (signed negative 0.0)
      else (scaled v (if down then start - e else start + e)).map (signed negative)

/-- Splits off the digits at the start; there has to be one. -/
def someDigits (cs : List Char) : Option (List Char × List Char) :=
  match cs.takeWhile Char.isDigit with
  | [] => none
  | digits => some (digits, cs.dropWhile Char.isDigit)

/-- The digits behind a point, if a point follows. -/
def readFraction : List Char → Option (Option (List Char) × List Char)
  | '.' :: rest => (someDigits rest).map fun (digits, rest) => (some digits, rest)
  | cs => some (none, cs)

/-- The exponent with its sign, if the mark of one follows. -/
def readExponent : List Char → Option (Option (Bool × List Char) × List Char)
  | c :: rest =>
    if c == 'e' || c == 'E' then
      let (down, rest) := match rest with
        | '+' :: r => (false, r)
        | '-' :: r => (true, r)
        | r => (false, r)
      (someDigits rest).map fun (digits, rest) => (some (down, digits), rest)
    else some (none, c :: rest)
  | [] => some (none, [])

/-- Reads the number at the start of a text. A whole part has no zero before other digits. -/
def readNumber (cs : List Char) : Option (Number × List Char) := do
  let (negative, cs) := match cs with
    | '-' :: rest => (true, rest)
    | cs => (false, cs)
  let (whole, cs) ← someDigits cs
  if whole.head? = some '0' ∧ 1 < whole.length then none
  let (fraction, cs) ← readFraction cs
  let (exponent, cs) ← readExponent cs
  let n ← numberOf negative whole fraction exponent
  return (n, cs)

/-- Doubles are positional while the leading digit has an exponent from -5 to 15, and an exponent
carries its sign. -/
def layout : Decimal.Layout := ⟨-5, 16, true⟩

/-- The text of a number. -/
def numberText : Number → String
  | .int i => toString i
  | .float bits => layout.write bits

end SchemaPages.Json
