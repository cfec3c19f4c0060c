/-!
# The shortest decimal that reads back

A finite binary floating-point number is `m · 2 ^ q`. Every real in its
*rounding interval* reads back as that number, so the shortest decimal for
it lies on the coarsest grid of multiples of a power of ten that has a
point in the interval. `shortest` walks the grids from coarse to fine and
takes, of the points in the interval, the one nearest to the number; an
exact tie goes to the even one.

All comparisons are between natural numbers: the interval is scaled to a
common denominator first. How the digits are laid out is a separate
question, answered by a `Layout` record.

## Main definitions

* `Dyadic.ofFloat` — a float as `± m · 2 ^ q`.
* `shortest` — digits and power of ten.
* `Layout.write` — the digits laid out.
-/

namespace NewsAnalytics.Decimal

/-! ## The value -/

/-- The number `± significand · 2 ^ exponent`. -/
structure Dyadic where
  negative : Bool
  significand : Nat
  exponent : Int

/-- The bit above the fifty-two bits of a fraction, which normal numbers
have and do not store. -/
def hiddenBit : Nat := 1 <<< 52

/-- The value of a finite float, read off its bits. -/
def Dyadic.ofFloat (x : Float) : Dyadic :=
  let bits : Nat := x.toBits.toNat
  let fraction : Nat := bits % hiddenBit
  let field : Nat := bits / hiddenBit % 2048
  { negative := bits >>> 63 == 1
    significand := if field = 0 then fraction else fraction + hiddenBit
    exponent := if field = 0 then -1074 else (field : Int) - 1075 }

/-! ## The rounding interval -/

/-- The reals that round to one number, over a common denominator. The
ends belong to the interval iff the significand is even. -/
structure Interval where
  low : Nat
  value : Nat
  high : Nat
  denominator : Nat
  closed : Bool

/-- The interval of a number other than zero. Below a power of two the
neighbour is only half as far away. -/
def Dyadic.interval (x : Dyadic) : Interval :=
  let m := x.significand
  let up := 1 <<< x.exponent.toNat
  let below := if m = hiddenBit ∧ x.exponent ≠ -1074 then 1 else 2
  { low := (4 * m - below) * up
    value := 4 * m * up
    high := (4 * m + 2) * up
    denominator := 4 * (1 <<< (-x.exponent).toNat)
    closed := m % 2 == 0 }

/-- The point `d · 10 ^ k` of the interval that is nearest to the value,
if one of its neighbours on that grid lies in the interval. -/
def Interval.pointOn (i : Interval) (k : Int) : Option Nat :=
  let finer := Nat.pow 10 (-k).toNat
  let unit := i.denominator * Nat.pow 10 k.toNat
  let inside (d : Nat) : Bool :=
    if i.closed then i.low * finer ≤ d * unit && d * unit ≤ i.high * finer
    else i.low * finer < d * unit && d * unit < i.high * finer
  let d := i.value * finer / unit
  let twiceRest := 2 * (i.value * finer % unit)
  if inside d && inside (d + 1) then
    some (if twiceRest < unit || (twiceRest == unit && d % 2 == 0) then d else d + 1)
  else if inside d then some d
  else if inside (d + 1) then some (d + 1)
  else none

/-- The coarsest grid that a float needs, as an exponent of ten. -/
def coarsest : Int := 309

/-- The number of grids from the coarsest to the finest that a float needs. -/
def gridCount : Nat := 660

/-- The fewest digits that read back, and their power of ten. -/
def shortest (x : Dyadic) : Nat × Int :=
  let i := x.interval
  let found := (List.range gridCount).findSome? fun (n : Nat) =>
    let k := coarsest - (n : Int)
    (i.pointOn k).map fun d => (d, k)
  found.getD (0, 0)

/-! ## Layout -/

/-- The decisions of a format: the range of leading exponents written
positionally, and whether a positive exponent carries its sign. -/
structure Layout where
  positionalFrom : Int
  positionalTo : Int
  signedExponent : Bool

/-- Digits `ds` of `ds · 10 ^ k` with a point, and `.0` after an integer. -/
def positional (ds : List Char) (k : Int) : List Char :=
  let lead := (ds.length : Int) + k
  if 0 ≤ k then ds ++ List.replicate k.toNat '0' ++ ['.', '0']
  else if 0 < lead then ds.take lead.toNat ++ '.' :: ds.drop lead.toNat
  else ['0', '.'] ++ List.replicate (-lead).toNat '0' ++ ds

/-- Digits `ds` of `ds · 10 ^ k` with one digit before the point and an
exponent. -/
def scientific (layout : Layout) (ds : List Char) (k : Int) : List Char :=
  let e := (ds.length : Int) + k - 1
  let mantissa := match ds with
    | [] => []
    | [d] => [d]
    | d :: rest => d :: '.' :: rest
  let sign := if e < 0 then ['-'] else if layout.signedExponent then ['+'] else []
  mantissa ++ 'e' :: sign ++ Nat.toDigits 10 e.natAbs

/-- The text of a finite float. -/
def Layout.write (layout : Layout) (x : Float) : List Char :=
  let value := Dyadic.ofFloat x
  let sign := if value.negative then ['-'] else []
  if value.significand = 0 then sign ++ ['0', '.', '0']
  else
    let (d, k) := shortest value
    let ds := Nat.toDigits 10 d
    let e := (ds.length : Int) + k - 1
    if layout.positionalFrom ≤ e ∧ e ≤ layout.positionalTo then sign ++ positional ds k
    else sign ++ scientific layout ds k

end NewsAnalytics.Decimal
