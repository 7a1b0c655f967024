import QueryFilter.Fault
import QueryFilter.Operator
import QueryFilter.Text.Split

/-!
# QueryFilter.Coercion

How raw values become the values of a filter: they are cut at the pipes and converted one by one.

* `readNumber`, `Value.readNumber`: the number that a text spells.
* `Coercion.apply`: a conversion at work; the caller says what its own conversions do.
* `rawPieces`: the pieces of a raw value.
* `readValues`: the converted pieces.
-/

namespace QueryFilter

/-- What the caller's conversions do, by name. -/
abbrev Conversions := String → Value → Except Fault Value

/-- The number that a text spells between blanks, if it spells one. -/
def readNumber (s : String) : Except Fault (Option Number) :=
  match Numeral.scan? (Text.trim s.toList) with
  | none => .ok none
  | some numeral =>
      match numeral.value with
      | .ok n => .ok (some n)
      | .error count => .error (.tooManyDigits count)

/-- The number that a value spells, which must be a text. -/
def Value.readNumber : Value → Except Fault (Option Number)
  | .text s => QueryFilter.readNumber s
  | .bytes _ => .error .bytesAsNumeral
  | v => .error (.lacks v.subject "strip")

/-- Texts become the numbers they spell, or null. -/
def toNumeric : Value → Except Fault Value
  | .text s => do
      match ← readNumber s with
      | some n => return .ofNumber n
      | none => return .null
  | v => .ok v

/-- Texts become the numbers they spell, or are trimmed. -/
def toStandard : Value → Except Fault Value
  | .text s => do
      match ← readNumber s with
      | some n => return .ofNumber n
      | none => return .text (Text.strip s)
  | v => .ok v

/-- A conversion at work. -/
def Coercion.apply (conversions : Conversions) : Coercion → Value → Except Fault Value
  | .numeric => toNumeric
  | .standard => toStandard
  | .supplied name => conversions name
  | .ofType name => conversions name

/-- A conversion of one piece; null is a value already and stays. -/
def Coercion.applyTo (conversions : Conversions) (coercion : Coercion) (v : Value) :
    Except Fault Value :=
  if v.isNull then .ok .null else coercion.apply conversions v

/-- The pieces of a text between the pipes. -/
def pipePieces (s : String) : List (List Char) := Text.splitAt '|' s.toList

/-- The pieces of an element of a list: those of a text, as they are. -/
def elementPieces : Value → List Value
  | .text s => (pipePieces s).map fun cs => .text (String.ofList cs)
  | v => [v]

/-- The pieces of a raw value. A text is cut and its pieces are trimmed, except where the pipe
belongs to a pattern; the elements of a list are cut. -/
def rawPieces (op : Operator) : Value → List Value
  | .list items => items.flatMap elementPieces
  | .tuple items => items.flatMap elementPieces
  | .text s =>
      if op = .regex then [.text (Text.strip s)]
      else (pipePieces s).map fun cs => .text (String.ofList (Text.trim cs))
  | v => [v]

/-- The converted pieces of a raw value, in order. -/
def readValues (conversions : Conversions) (coercion : Coercion) (op : Operator) (v : Value) :
    Except Fault (List Value) :=
  (rawPieces op v).mapM (coercion.applyTo conversions)

end QueryFilter
