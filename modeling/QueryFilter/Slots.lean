import QueryFilter.Operator
import QueryFilter.Fault

/-!
# QueryFilter.Slots

One value for each operator, written freely: nothing makes sure that an operator that collects
values holds a list. Null stands for an operator without a value.

* `Slots`: the values.
* `Slots.has`: does an operator have a value? Of one that collects, a value of some size.
* `Slots.criteria`: the operators that have a value, by name.
-/

namespace QueryFilter

/-- A value for each operator. -/
structure Slots where
  get : Operator → Value

namespace Slots

/-- No operator has a value. -/
def empty : Slots := ⟨fun _ => .null⟩

/-- Writes an operator's value, whatever it is. -/
def set (op : Operator) (v : Value) (slots : Slots) : Slots :=
  ⟨fun other => if other = op then v else slots.get other⟩

/-- Takes an operator's value away. -/
def clear (op : Operator) (slots : Slots) : Slots := slots.set op .null

/-- Does an operator have a value? One that collects has one if its size is not zero, and it is a
fault if the value has no size. -/
def has (slots : Slots) (op : Operator) : Except Fault Bool :=
  let v := slots.get op
  if v.isNull then .ok false
  else if op.isBound then .ok true
  else match v.size? with
    | some size => .ok (0 < size)
    | none => .error (.noSize v.typeWord)

/-- Are the operators without a value? The first one that has one decides. -/
def lackAll (slots : Slots) : List Operator → Except Fault Bool
  | [] => .ok true
  | op :: rest => do if ← slots.has op then return false else slots.lackAll rest

/-- Is every operator without a value? -/
def isEmpty (slots : Slots) : Except Fault Bool := slots.lackAll Operator.all

/-- The operators that have a value, by name, in order. -/
def criteria (slots : Slots) : Except Fault (Mapping Value) := do
  let held ← Operator.all.filterM slots.has
  return held.map fun op => (.text op.name, slots.get op)

/-- The values that are there, empty ones included, in order. -/
def present (slots : Slots) : List (Operator × Value) :=
  (Operator.all.map fun op => (op, slots.get op)).filter fun slot => !slot.2.isNull

end Slots

end QueryFilter
