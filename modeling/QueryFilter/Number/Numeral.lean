import QueryFilter.Text.Blank
import QueryFilter.Text.Digit
import QueryFilter.Number.Binary64

/-!
# QueryFilter.Number.Numeral

How a number is spelled: an optional sign, digits with an optional point, and an optional
exponent. Digits are those of any script.

* `Numeral`: the parts of a spelling.
* `Numeral.scan?`: the numeral that a text is, from its first to its last character.
* `Spelled`: which texts are numerals, said by the grammar alone.
* `Number`: the value of a numeral, an integer where there is neither point nor exponent.
* `Number.compare`, `Number.identical`: how two numbers lie to each other, and whether they are one
  object.
* `Numeral.value`: a numeral's value; integers have a limit on their digits.
-/

namespace QueryFilter

/-- An exponent: a sign and digit values. -/
structure Exponent where
  negative : Bool
  digits : List Nat
  deriving DecidableEq, Repr

/-- The parts of a number's spelling, as digit values. -/
structure Numeral where
  negative : Bool
  /-- the digits before the point -/
  whole : List Nat
  /-- the digits after the point, if there is a point -/
  fraction : Option (List Nat)
  exponent : Option Exponent
  deriving DecidableEq, Repr

/-- An integer or a floating-point number. -/
inductive Number where
  | int (n : Int)
  | float (x : Binary64)
  deriving DecidableEq, Repr

/-- Where a number lies on the line. -/
def Number.place : Number → Place
  | .int n => .ofInt n
  | .float x => .ofBinary64 x

/-- Two numbers compared by what they are worth; an integer and a floating-point number compare
without rounding. -/
def Number.compare : Number → Number → Comparison
  | .int m, .int n => .ofInts m n
  | a, b => a.place.compare b.place

/-- Comparing always is comparing places. -/
theorem Number.compare_eq_place (a b : Number) : a.compare b = a.place.compare b.place := by
  cases a <;> cases b <;> simp [Number.compare, Number.place]

/-- Are both of them one object that is not a number? Which objects other numbers are never shows,
for they equal themselves. -/
def Number.identical : Number → Number → Bool
  | .float (.nan (some i)), .float (.nan (some j)) => i == j
  | _, _ => false

@[simp] theorem Number.identical_int (m : Number) (n : Int) : m.identical (.int n) = false := by
  unfold identical
  split
  next h => cases h
  next => rfl

namespace Numeral

/-- A leading sign and what follows it. -/
def scanSign : List Char → Bool × List Char
  | '+' :: rest => (false, rest)
  | '-' :: rest => (true, rest)
  | cs => (false, cs)

/-- The digits at the front and what follows them. -/
def scanDigits (cs : List Char) : List Char × List Char :=
  (cs.takeWhile Text.isDigit, cs.dropWhile Text.isDigit)

/-- The exponent that a text is: nothing at all, or a letter, an optional sign and digits. -/
def scanExponent? : List Char → Option (Option Exponent)
  | [] => some none
  | c :: rest =>
      if c = 'e' ∨ c = 'E' then
        let (negative, rest) := scanSign rest
        let (digits, rest) := scanDigits rest
        if digits.isEmpty || !rest.isEmpty then none
        else some (some ⟨negative, Text.digitValues digits⟩)
      else none

/-- The numeral that a text is, sign first. There is a digit before the point or after it. -/
def scan? (cs : List Char) : Option Numeral :=
  let (negative, rest) := scanSign cs
  let (whole, rest) := scanDigits rest
  match rest with
  | '.' :: rest =>
      let (fraction, rest) := scanDigits rest
      if whole.isEmpty && fraction.isEmpty then none
      else (scanExponent? rest).map fun exponent =>
        ⟨negative, Text.digitValues whole, some (Text.digitValues fraction), exponent⟩
  | rest =>
      if whole.isEmpty then none
      else (scanExponent? rest).map fun exponent =>
        ⟨negative, Text.digitValues whole, none, exponent⟩

/-- The most digits, leading zeros counted, that an integer may be spelled with. -/
def maxIntegerDigits : Nat := 4300

/-- An integer with a sign. -/
def signed (negative : Bool) (n : Nat) : Int := if negative then -(n : Int) else n

/-- The power of ten of an exponent. -/
def Exponent.toInt (e : Exponent) : Int := signed e.negative (Text.ofDigits e.digits)

/-- The floating-point number that a numeral names. -/
def toBinary64 (n : Numeral) : Binary64 :=
  let fraction := n.fraction.getD []
  let power : Int := (n.exponent.map Exponent.toInt).getD 0
  .ofDecimal n.negative (n.whole ++ fraction) (power - fraction.length)

/-- A numeral's value; the error is the count of digits of an integer that is spelled too long. -/
def value (n : Numeral) : Except Nat Number :=
  if n.fraction.isNone && n.exponent.isNone then
    if maxIntegerDigits < n.whole.length then .error n.whole.length
    else .ok (.int (signed n.negative (Text.ofDigits n.whole)))
  else .ok (.float n.toBinary64)

end Numeral

/-! ## The grammar -/

/-- A run of one or more digits. -/
def IsDigits (cs : List Char) : Prop := cs ≠ [] ∧ ∀ c ∈ cs, Text.isDigit c = true

/-- A sign that may be missing. -/
inductive OptionalSign : List Char → Prop where
  | absent : OptionalSign []
  | plus : OptionalSign ['+']
  | minus : OptionalSign ['-']

/-- Digits with an optional point, at least one digit on one of its sides. -/
inductive Mantissa : List Char → Prop where
  | whole {cs : List Char} : IsDigits cs → Mantissa cs
  | pointed {cs ds : List Char} : IsDigits cs → (∀ d ∈ ds, Text.isDigit d = true) →
      Mantissa (cs ++ '.' :: ds)
  | fraction {ds : List Char} : IsDigits ds → Mantissa ('.' :: ds)

/-- An exponent that may be missing. -/
inductive OptionalExponent : List Char → Prop where
  | absent : OptionalExponent []
  | present {mark : Char} {sign digits : List Char} : mark = 'e' ∨ mark = 'E' →
      OptionalSign sign → IsDigits digits → OptionalExponent (mark :: sign ++ digits)

/-- The texts that spell a number. -/
inductive Spelled : List Char → Prop where
  | mk {sign mantissa exponent : List Char} : OptionalSign sign → Mantissa mantissa →
      OptionalExponent exponent → Spelled (sign ++ mantissa ++ exponent)

end QueryFilter
