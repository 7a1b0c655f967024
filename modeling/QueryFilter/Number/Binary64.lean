import QueryFilter.Text.Digit

/-!
# QueryFilter.Number.Binary64

Binary floating-point numbers of 64 bits, held exactly. Every finite one is a whole number of
*units* of 2^-1074, the least positive value, so reading, comparing and printing need naturals
only.

* `Binary64`: a finite value with its sign, an infinity, or not a number. What is not a number
  equals nothing, so there it shows which of several objects it is.
* `Binary64.ofRatio`: the value nearest to a quotient, a tie going to the even neighbour.
* `Binary64.ofDecimal`: the value nearest to digits scaled by a power of ten.
* `Place`: where a number lies on the line, shared by integers and floating-point numbers.
-/

namespace QueryFilter

/-- A binary floating-point number of 64 bits. -/
inductive Binary64 where
  /-- The finite value of that many units of 2^-1074; zero has two signs. -/
  | finite (negative : Bool) (units : Nat)
  | infinite (negative : Bool)
  /-- Not a number. Wherever the same identity stands, it is the same object; one without identity
  is an object of its own at each place. -/
  | nan (identity : Option Nat := none)
  deriving DecidableEq, Repr

namespace Binary64

/-- The exponent of two that the unit has, below zero. -/
def depth : Nat := 1074

/-- How many units make one. -/
def one : Nat := Nat.pow 2 depth

theorem one_pos : 0 < one := by
  unfold one
  generalize depth = n
  exact Nat.two_pow_pos n

/-- The first number of units that is too large to be finite. -/
def overflow : Nat := Nat.pow 2 (1024 + depth)

/-- The bits that a finite value's significand has. -/
def precision : Nat := 53

/-- How many binary digits a natural number has. -/
def bitLength (n : Nat) : Nat := if n = 0 then 0 else n.log2 + 1

/-- The natural number nearest to a quotient, the even one of two that are equally near. -/
def roundQuotient (num den : Nat) : Nat :=
  let quotient := num / den
  let twice := 2 * (num % den)
  if twice < den then quotient
  else if den < twice then quotient + 1
  else if quotient % 2 = 0 then quotient
  else quotient + 1

/-- The gap, in units, between neighbouring values of the magnitude of `units`. -/
def gap (units : Nat) : Nat := Nat.pow 2 (bitLength units - precision)

/-- The value nearest to `num / den`; from half a gap beyond the greatest finite value on it is
infinite. -/
def ofRatio (negative : Bool) (num den : Nat) : Binary64 :=
  let scaled := num * one
  let step := gap (scaled / den)
  let units := roundQuotient scaled (den * step) * step
  if overflow ≤ units then .infinite negative else .finite negative units

/-- The value nearest to the decimal digits, most significant first, times `10 ^ exponent`. Beyond
400 places on either side the answer is known without the power. -/
def ofDecimal (negative : Bool) (digits : List Nat) (exponent : Int) : Binary64 :=
  let whole := Text.ofDigits digits
  if whole = 0 then .finite negative 0
  else if 400 < exponent then .infinite negative
  else if exponent + digits.length < -400 then .finite negative 0
  else if 0 ≤ exponent then ofRatio negative (whole * Nat.pow 10 exponent.toNat) 1
  else ofRatio negative whole (Nat.pow 10 (-exponent).toNat)

/-- The value nearest to an integer. -/
def ofInt (n : Int) : Binary64 := ofRatio (n < 0) n.natAbs 1

/-- Is this one of the two zeros? -/
def isZero : Binary64 → Bool
  | finite _ units => units == 0
  | _ => false

/-- The integer that a finite value is, if it has no fraction. -/
def toInt? : Binary64 → Option Int
  | finite negative units =>
      if units % one = 0 then
        let n := Int.ofNat (units / one)
        some (if negative then -n else n)
      else none
  | _ => none

end Binary64

/-- How two numbers lie to each other; not a number lies nowhere, so nothing is known of it. -/
inductive Comparison where
  | less
  | same
  | greater
  | unordered
  deriving DecidableEq, Repr

/-- Two integers compared. -/
def Comparison.ofInts (m n : Int) : Comparison :=
  if m < n then .less else if m = n then .same else .greater

/-- Where a number lies: so many units from zero, at one of the two ends, or nowhere. -/
inductive Place where
  | bottom
  | at (units : Int)
  | top
  | nowhere
  deriving DecidableEq, Repr

namespace Place

/-- The place of an integer. -/
def ofInt (n : Int) : Place := .at (n * Binary64.one)

/-- The place of a floating-point number; the two zeros share theirs. -/
def ofBinary64 : Binary64 → Place
  | .finite negative units => .at (if negative then -(units : Int) else units)
  | .infinite negative => if negative then .bottom else .top
  | .nan _ => .nowhere

/-- Two places compared, exactly. -/
def compare : Place → Place → Comparison
  | .nowhere, _ => .unordered
  | _, .nowhere => .unordered
  | .bottom, .bottom => .same
  | .bottom, _ => .less
  | _, .bottom => .greater
  | .top, .top => .same
  | .top, _ => .greater
  | _, .top => .less
  | .at m, .at n => .ofInts m n

/-- Comparing integers by their places is comparing them. -/
@[simp] theorem compare_ofInt (m n : Int) : compare (ofInt m) (ofInt n) = .ofInts m n := by
  have hpos : (0 : Int) < (Binary64.one : Int) := by have := Binary64.one_pos; omega
  simp only [ofInt, compare, Comparison.ofInts, Int.mul_lt_mul_right hpos,
    Int.mul_eq_mul_right_iff (Int.ne_of_gt hpos)]

end Place

end QueryFilter
