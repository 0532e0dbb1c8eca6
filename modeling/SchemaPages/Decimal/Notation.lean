import SchemaPages.Decimal.Shortest
/-!
# Writing doubles

A `Layout` says how the shortest decimal of a double is laid out: which exponents are written
positionally, and how an exponent looks otherwise.
-/

namespace SchemaPages.Decimal

/-- The layout of a number: positional while the exponent of the leading digit is at least
`plainFrom` and below `plainBelow`, with an exponent otherwise. -/
structure Layout where
  plainFrom : Int
  plainBelow : Int
  /-- Whether a positive exponent carries its sign. -/
  signedExponent : Bool
  deriving DecidableEq, Repr

/-- Zeros as characters. -/
def zeros (n : Nat) : List Char := List.replicate n '0'

/-- Positional notation with at least one digit on either side of the point; `lead` is the exponent
of the leading digit. -/
def plainDigits (digits : List Char) (lead : Int) : List Char :=
  if lead < 0 then '0' :: '.' :: zeros (-lead - 1).toNat ++ digits
  else
    let whole := lead.toNat + 1
    if digits.length ≤ whole then digits ++ zeros (whole - digits.length) ++ ['.', '0']
    else digits.take whole ++ '.' :: digits.drop whole

/-- Notation with an exponent: one digit before the point, and no point after a single digit. -/
def exponentDigits (l : Layout) (digits : List Char) (lead : Int) : List Char :=
  let mantissa := match digits with
    | [] => []
    | [d] => [d]
    | d :: rest => d :: '.' :: rest
  let sign := if lead < 0 then ['-'] else if l.signedExponent then ['+'] else []
  mantissa ++ 'e' :: sign ++ Nat.toDigits 10 lead.natAbs

/-- The text of a finite double, given its bits. -/
def Layout.write (l : Layout) (bits : UInt64) : String :=
  let sign := if bits >>> 63 == 1 then ['-'] else []
  let x := Binary.ofBits bits
  let body :=
    if x.m = 0 then ['0', '.', '0']
    else
      let d := x.shortest
      let digits := Nat.toDigits 10 d.digits
      let lead := d.exp + digits.length - 1
      if l.plainFrom ≤ lead ∧ lead < l.plainBelow then plainDigits digits lead
      else exponentDigits l digits lead
  String.ofList (sign ++ body)

/-- The bits of infinity. -/
def infinityBits : UInt64 := 0x7FF0000000000000

/-- The bits of the double nearest to a number given by its digits and the exponent of their last
one. Far outside the range of doubles no power of ten needs to be computed. -/
def nearest (digits : Nat) (exp : Int) : UInt64 :=
  let lead := exp + (Nat.toDigits 10 digits).length
  if digits = 0 ∨ lead < -400 then 0
  else if 400 < lead then infinityBits
  else (Float.ofScientific digits (decide (exp < 0)) exp.natAbs).toBits

/-- Whether the bits are those of a finite double. -/
def isFinite (bits : UInt64) : Bool := (bits >>> 52) &&& 0x7FF != 0x7FF

end SchemaPages.Decimal
