/-!
# Shortest decimals

A finite double stands for an interval of reals: all that round to it. Its shortest decimal is the
one with the fewest digits in that interval, and of those the nearest to the double.

* `Binary`: a double as `m * 2 ^ q`, read from its bits;
* `Binary.readsBack`: whether a decimal lies in the interval of a double;
* `Binary.shortest`: the shortest decimal, found by exact arithmetic on one grid of powers of ten
  after the other.
-/

namespace SchemaPages.Decimal

/-- The value `m * 2 ^ q`, with a flag for the values whose lower neighbour is half as far away as
their upper one. -/
structure Binary where
  m : Nat
  q : Int
  narrowBelow : Bool
  deriving DecidableEq, Repr

/-- The value of the bits of a finite double without its sign. -/
def Binary.ofBits (bits : UInt64) : Binary :=
  let e := ((bits >>> 52) &&& 0x7FF).toNat
  let f := (bits &&& 0xFFFFFFFFFFFFF).toNat
  if e = 0 then ⟨f, -1074, false⟩
  else ⟨0x10000000000000 + f, (e : Int) - 1075, f == 0 && decide (1 < e)⟩

/-- The decimal `digits * 10 ^ exp`. -/
structure Scaled where
  digits : Nat
  exp : Int
  deriving DecidableEq, Repr

/-- Compares `a * 10 ^ i` with `n * 2 ^ j`, in whole numbers. -/
def compareScaled (a : Nat) (i : Int) (n : Nat) (j : Int) : Ordering :=
  compare (a * Nat.pow 10 i.toNat * Nat.pow 2 (-j).toNat)
    (n * Nat.pow 2 j.toNat * Nat.pow 10 (-i).toNat)

/-- Whether a decimal lies among the reals that round to the value. The ends of the interval
belong to it when `m` is even. -/
def Binary.readsBack (x : Binary) (d : Scaled) : Bool :=
  let low := compareScaled d.digits d.exp (if x.narrowBelow then 4 * x.m - 1 else 4 * x.m - 2) (x.q - 2)
  let high := compareScaled d.digits d.exp (4 * x.m + 2) (x.q - 2)
  let ends := x.m % 2 == 0
  (low == .gt || ends && low == .eq) && (high == .lt || ends && high == .eq)

/-- How many decimal digits a positive number has. -/
def digitCount (n : Nat) : Nat := (Nat.toDigits 10 n).length

/-- The least `k` with `m * 2 ^ q < 10 ^ k`, for a positive value. -/
def Binary.scale (x : Binary) : Int :=
  let den := Nat.pow 2 (-x.q).toNat
  let num := x.m * Nat.pow 2 x.q.toNat
  if num < den then 1 - (digitCount ((den - 1) / num) : Int) else digitCount (num / den)

/-- The greatest multiple of `10 ^ g` that is at most the value, as a count of `10 ^ g`. -/
def Binary.floorOn (x : Binary) (g : Int) : Nat :=
  (x.m * Nat.pow 2 x.q.toNat * Nat.pow 10 (-g).toNat) /
    (Nat.pow 2 (-x.q).toNat * Nat.pow 10 g.toNat)

/-- The neighbour of the value on the grid of `10 ^ g` that reads back; of two the nearer, and the
even one when both are equally near. -/
def Binary.onGrid (x : Binary) (g : Int) : Option Scaled :=
  let a := x.floorOn g
  match x.readsBack ⟨a, g⟩, x.readsBack ⟨a + 1, g⟩ with
  | true, false => some ⟨a, g⟩
  | false, true => some ⟨a + 1, g⟩
  | false, false => none
  | true, true =>
    match compareScaled (2 * a + 1) g (2 * x.m) x.q with
    | .gt => some ⟨a, g⟩
    | .lt => some ⟨a + 1, g⟩
    | .eq => some ⟨if a % 2 = 0 then a else a + 1, g⟩

/-- The exact decimal of the value. -/
def Binary.exact (x : Binary) : Scaled :=
  if 0 ≤ x.q then ⟨x.m * Nat.pow 2 x.q.toNat, 0⟩ else ⟨x.m * Nat.pow 5 (-x.q).toNat, x.q⟩

/-- The same decimal without zeros at the end of its digits. -/
def Scaled.strip (d : Scaled) : Scaled :=
  if d.digits ≠ 0 ∧ d.digits % 10 = 0 then strip ⟨d.digits / 10, d.exp + 1⟩ else d
termination_by d.digits
decreasing_by omega

/-- The shortest decimal of a positive value: the grids of one to seventeen digits are tried in
turn. -/
def Binary.shortest (x : Binary) : Scaled :=
  let k := x.scale
  (((List.range 17).findSome? fun n => x.onGrid (k - (n + 1 : Nat))).getD x.exact).strip

end SchemaPages.Decimal
