import KeyRemap.Decimal.Binary64

/-!
# The shortest decimal of a floating-point number

Of all decimals that read back as a number, the shortest has the fewest digits and, among those, is
the nearest to the number; of two that are equally near the greater one is taken. It is written
without an exponent, and always with a point.
-/

namespace KeyRemap.Decimal

/-- The decimals that read back as `mantissa * 2 ^ exponent`: those between `low` and `high`, in
units of a fourth of `2 ^ exponent`. The ends belong to them when the mantissa is even. Below a
power of two the neighbour is only half as far away. -/
structure Interval where
  low : Nat
  value : Nat
  high : Nat
  closed : Bool
  deriving DecidableEq, Repr

/-- The interval of a positive finite number. -/
def Interval.of (mantissa : Nat) (exponent : Int) : Interval where
  low := 4 * mantissa - if mantissa = Nat.pow 2 52 ∧ Binary64.minExponent < exponent then 1 else 2
  value := 4 * mantissa
  high := 4 * mantissa + 2
  closed := mantissa % 2 = 0

/-- Does the interval hold `n / d`? -/
def Interval.holds (interval : Interval) (n d : Nat) : Bool :=
  if interval.closed then interval.low * d ≤ n && n ≤ interval.high * d
  else interval.low * d < n && n < interval.high * d

/-- The fraction `10 ^ scale` in units of a fourth of `2 ^ exponent`. -/
def gridStep (exponent scale : Int) : Nat × Nat :=
  Binary64.inUnits (Nat.pow 10 scale.toNat) (Nat.pow 10 (-scale).toNat) (exponent - 2)

/-- The multiple of `10 ^ scale` that is the nearest to the number of those in its interval. Only
the neighbours of the number on that grid can be. -/
def onGrid? (interval : Interval) (exponent scale : Int) : Option Nat :=
  let (n, d) := gridStep exponent scale
  let below := interval.value * d / n
  let above := below + 1
  match interval.holds (below * n) d, interval.holds (above * n) d with
  | false, false => none
  | true, false => some below
  | false, true => some above
  | true, true =>
    if interval.value * d - below * n < above * n - interval.value * d then some below
    else some above

/-- The first of ever finer grids that has a point in the interval, with that point. -/
def search (interval : Interval) (exponent : Int) : Nat → Int → Nat × Int
  | 0, scale => (0, scale)
  | fuel + 1, scale =>
    match onGrid? interval exponent scale with
    | some multiple => (multiple, scale)
    | none => search interval exponent fuel (scale - 1)

/-- The shortest decimal of a positive finite number: its digits as a natural number, and the power
of ten by which to multiply them. No number is as great as 10^310, and the grid of 10^-330 is finer
than every interval. -/
def shortest (mantissa : Nat) (exponent : Int) : Nat × Int :=
  search (.of mantissa exponent) exponent 641 310

/-- A decimal without an exponent, with at least one digit on each side of the point. -/
def positional (digits : Nat) (scale : Int) : String :=
  let written := Nat.toDigits 10 digits ++ List.replicate scale.toNat '0'
  let places := (-scale).toNat
  let padded := List.replicate (places + 1 - written.length) '0' ++ written
  let whole := padded.take (padded.length - places)
  let fraction := padded.drop (padded.length - places)
  String.ofList (whole ++ '.' :: if fraction.isEmpty then ['0'] else fraction)

/-- The text of a floating-point number. -/
def Binary64.text : Binary64 → String
  | .nan => "NaN"
  | .infinite negative => if negative then "-inf" else "inf"
  | .finite negative mantissa exponent =>
    let (digits, scale) := if mantissa = 0 then (0, 0) else shortest mantissa exponent
    (if negative then "-" else "") ++ positional digits scale

end KeyRemap.Decimal
