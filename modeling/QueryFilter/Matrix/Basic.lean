import QueryFilter.Coercion
import QueryFilter.Conflict
import QueryFilter.Descriptor

/-!
# QueryFilter.Matrix.Basic

What has been gathered for each field of a request, and how one more pair is gathered.

* `Matrix`: an accumulator for each field, in the order in which the fields came up.
* `Accumulator.add`: more values under an operator.
* `Matrix.gather`: the values of one pair, converted and added to their field.
* `Matrix.criteria`: the fields that hold something, each with its operators.
-/

namespace QueryFilter

/-- An accumulator for each field. -/
abbrev Matrix := Mapping Accumulator

/-- What became of some values: the matrix with them, whether any was taken, and the reports. -/
structure Gathering where
  matrix : Matrix
  gathered : Bool
  diagnostics : List Diagnostic

/-- The bound that an operator keeps of its present bound and new ones; nothing, if two of them have
no common order. -/
def BoundOperator.combine? (op : BoundOperator) (current : Value) (values : List Value) :
    Option Value :=
  let wanted : Comparison := if op.keepsGreatest then .greater else .less
  match if current.isNull then values else current :: values with
  | [] => some current
  | first :: rest => Value.extreme? wanted first rest

/-- More values under an operator: a list grows at its end, a bound is combined with the one that is
kept. Nothing, if bounds have no common order. -/
def Accumulator.add? (op : Operator) (values : List Value) (a : Accumulator) :
    Option Accumulator :=
  match op with
  | .collect op => some (a.setCollected op ((a.collected op).getD [] ++ values))
  | .bound op => (op.combine? (a.bound op) values).map fun v => a.setBound op v

/-- Does an operator have something, be it an empty list? -/
def Accumulator.isPresent (op : Operator) (a : Accumulator) : Bool := (a.slot? op).isSome

namespace Matrix

/-- What has been gathered for a field. -/
def field (name : Value) (m : Matrix) : Accumulator :=
  (Mapping.lookup? name m).getD .empty

/-- Converted values added to their field. The field is there from now on, even if the values could
not be combined. -/
def add (name : Value) (op : Operator) (values : List Value) (m : Matrix) : Gathering :=
  let a := m.field name
  match a.add? op values with
  | some a => ⟨Mapping.put name a m, true, []⟩
  | none => ⟨Mapping.put name a m, a.isPresent op, [.incomparable name]⟩

/-- The values of one pair, converted as the field's descriptor asks and added to the field. -/
def gather (conversions : Conversions) (d : Descriptor) (name raw : Value) (op : Operator)
    (m : Matrix) : Except Fault Gathering := do
  let values ← readValues conversions (d.coercion?.getD .standard) op raw
  if values.isEmpty then return ⟨m, false, []⟩
  let key ← name.asKey
  return m.add key op values

/-- The fields that hold something, each with its operators and what they hold. -/
def criteria (m : Matrix) : Mapping Value :=
  m.filterMap fun e =>
    let held := e.2.criteria
    if held.isEmpty then none else some (e.1, .mapping held)

end Matrix

end QueryFilter
