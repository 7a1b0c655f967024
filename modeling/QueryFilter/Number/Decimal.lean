import QueryFilter.Number.Binary64

/-!
# QueryFilter.Number.Decimal

Floating-point numbers written in decimal with the fewest digits that read back to them.

* `Binary64.Interval`: the reals that round to a value.
* `Binary64.shortest`: the fewest digits in that interval, the nearest to the value among those.
* `DecimalLayout`: which magnitudes are written positionally, and the form of the exponent.
* `Binary64.render`: the text.
-/

namespace QueryFilter

/-- The natural number in base ten. -/
def decimalDigits (n : Nat) : List Char := Nat.toDigits 10 n

/-- An integer in base ten, a minus sign in front of a negative one. -/
def renderInt (n : Int) : String :=
  String.ofList (if n < 0 then '-' :: decimalDigits n.natAbs else decimalDigits n.natAbs)

namespace Binary64

/-- The reals that round to a positive finite value, in quarters of a unit. The ends belong to it
when the value's significand is even, for a tie goes to the even neighbour. -/
structure Interval where
  low : Nat
  value : Nat
  high : Nat
  closed : Bool

/-- The interval of a positive number of units. Below a power of two the gap is half as wide. -/
def interval (units : Nat) : Interval :=
  let step := gap units
  let significand := units / step
  let narrow := significand == Nat.pow 2 (precision - 1) && step != 1
  { low := 4 * units - (if narrow then step else 2 * step)
    value := 4 * units
    high := 4 * units + 2 * step
    closed := significand % 2 == 0 }

/-- Quarters of a unit in one. -/
def quarters : Nat := 4 * one

/-- The least power of ten above a positive value: `value < 10 ^ scale`. -/
def scale (value : Nat) : Int :=
  if quarters ≤ value then (decimalDigits (value / quarters)).length
  else 1 - ((decimalDigits ((quarters - 1) / value)).length : Int)

/-- The point of the grid `10 ^ power` that lies in the interval, if one of the two neighbours of
the value does; the nearer one of two, and the even one if they are equally near. -/
def onGrid? (i : Interval) (power : Int) : Option Nat :=
  let grid := quarters * Nat.pow 10 power.toNat
  let widen := Nat.pow 10 (-power).toNat
  let low := i.low * widen
  let value := i.value * widen
  let high := i.high * widen
  let inside (point : Nat) : Bool :=
    if i.closed then low ≤ point && point ≤ high else low < point && point < high
  let below := value / grid
  let left := below * grid
  let right := left + grid
  match inside left && below != 0, inside right with
  | false, false => none
  | true, false => some below
  | false, true => some (below + 1)
  | true, true =>
      if 2 * value < left + right then some below
      else if left + right < 2 * value then some (below + 1)
      else if below % 2 = 0 then some below
      else some (below + 1)

/-- The digits of a positive number of units and the exponent of the first one: the fewest digits
that read back. Seventeen always do. -/
def shortest (units : Nat) : List Char × Int :=
  let i := interval units
  let top := scale i.value
  let found := (List.range 17).findSome? fun (n : Nat) =>
    (onGrid? i (top - (n + 1))).map fun digits => (digits, top - (n + 1))
  let (digits, power) := found.getD (i.value, 0)
  let text := decimalDigits digits
  ((text.reverse.dropWhile (· = '0')).reverse, power + text.length - 1)

end Binary64

/-- How decimal digits are laid out. -/
structure DecimalLayout where
  /-- the least exponent of the first digit that is written positionally -/
  leastPositional : Int
  /-- the greatest one -/
  greatestPositional : Int
  /-- how many digits an exponent has at least -/
  exponentWidth : Nat

/-- Positional from one ten-thousandth up to sixteen digits before the point, and exponents with a
sign and two digits at least. -/
def DecimalLayout.standard : DecimalLayout := ⟨-4, 15, 2⟩

namespace DecimalLayout

/-- A natural number padded with zeros on the left. -/
def pad (width n : Nat) : List Char :=
  let digits := decimalDigits n
  List.replicate (width - digits.length) '0' ++ digits

/-- The exponent form: one digit, the others after a point, and the exponent. -/
def scientific (layout : DecimalLayout) (digits : List Char) (exponent : Int) : List Char :=
  let mantissa := match digits with
    | [] => ['0']
    | [d] => [d]
    | d :: rest => d :: '.' :: rest
  let sign := if exponent < 0 then '-' else '+'
  mantissa ++ 'e' :: sign :: pad layout.exponentWidth exponent.natAbs

/-- The positional form, with at least one digit on each side of the point. -/
def positional (digits : List Char) (exponent : Int) : List Char :=
  if exponent < 0 then
    '0' :: '.' :: List.replicate ((-exponent).toNat - 1) '0' ++ digits
  else
    let before := exponent.toNat + 1
    let whole := digits.take before ++ List.replicate (before - digits.length) '0'
    let fraction := digits.drop before
    whole ++ '.' :: (if fraction.isEmpty then ['0'] else fraction)

/-- Digits and the exponent of the first one, as text. -/
def lay (layout : DecimalLayout) (digits : List Char) (exponent : Int) : List Char :=
  if layout.leastPositional ≤ exponent ∧ exponent ≤ layout.greatestPositional then
    positional digits exponent
  else
    layout.scientific digits exponent

end DecimalLayout

/-- The text of a floating-point number. -/
def Binary64.render : Binary64 → String
  | .nan _ => "nan"
  | .infinite negative => if negative then "-inf" else "inf"
  | .finite negative units =>
      let body :=
        if units = 0 then DecimalLayout.positional ['0'] 0
        else
          let (digits, exponent) := Binary64.shortest units
          DecimalLayout.standard.lay digits exponent
      String.ofList (if negative then '-' :: body else body)

end QueryFilter
