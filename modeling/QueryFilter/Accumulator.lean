import QueryFilter.Slots

/-!
# QueryFilter.Accumulator

What has been gathered for one field: a list for each operator that collects, and one value for each
that keeps a bound.

* `Accumulator`: the lists and bounds. A list may be missing or empty, a bound that is null is
  missing; neither counts as a value.
* `Accumulator.collected`, `Accumulator.bound`: what one operator holds, with their setters.
* `Accumulator.criteria`: the operators that hold something, by name, with what they hold.
* `Accumulator.ofSlots`: an accumulator from values that were written freely.
-/

namespace QueryFilter

/-- What has been gathered for one field. -/
structure Accumulator where
  eq : Option (List Value) := none
  ne : Option (List Value) := none
  bt : Option (List Value) := none
  gt : Value := .null
  gte : Value := .null
  lte : Value := .null
  lt : Value := .null
  regex : Option (List Value) := none

namespace Accumulator

/-- Nothing gathered. -/
def empty : Accumulator := {}

/-- The list that an operator has collected. -/
def collected (op : ListOperator) (a : Accumulator) : Option (List Value) :=
  match op with
  | .eq => a.eq
  | .ne => a.ne
  | .bt => a.bt
  | .regex => a.regex

/-- Writes the list of an operator. -/
def setCollected (op : ListOperator) (values : List Value) (a : Accumulator) : Accumulator :=
  match op with
  | .eq => { a with eq := some values }
  | .ne => { a with ne := some values }
  | .bt => { a with bt := some values }
  | .regex => { a with regex := some values }

/-- The bound that an operator keeps. -/
def bound (op : BoundOperator) (a : Accumulator) : Value :=
  match op with
  | .gt => a.gt
  | .gte => a.gte
  | .lte => a.lte
  | .lt => a.lt

/-- Writes the bound of an operator. -/
def setBound (op : BoundOperator) (v : Value) (a : Accumulator) : Accumulator :=
  match op with
  | .gt => { a with gt := v }
  | .gte => { a with gte := v }
  | .lte => { a with lte := v }
  | .lt => { a with lt := v }

/-- The value under an operator, an empty list included. -/
def slot? (a : Accumulator) : Operator → Option Value
  | .collect op => (a.collected op).map .list
  | .bound op => if (a.bound op).isNull then none else some (a.bound op)

/-- The value under an operator, if it counts: a list that is not empty, or a bound. -/
def held? (a : Accumulator) : Operator → Option Value
  | .collect op =>
      match a.collected op with
      | some (v :: rest) => some (.list (v :: rest))
      | _ => none
  | .bound op => if (a.bound op).isNull then none else some (a.bound op)

/-- Does an operator hold a value that counts? -/
def has (a : Accumulator) (op : Operator) : Bool := (a.held? op).isSome

/-- Does no operator hold a value that counts? -/
def isEmpty (a : Accumulator) : Bool := Operator.all.all fun op => !a.has op

/-- The values that are there, empty lists included, in order. -/
def present (a : Accumulator) : List (Operator × Value) :=
  Operator.all.filterMap fun op => (a.slot? op).map (op, ·)

/-- The operators that hold a value that counts, by name, in order. -/
def criteria (a : Accumulator) : Mapping Value :=
  Operator.all.filterMap fun op => (a.held? op).map (.text op.name, ·)

/-- The values as they are written freely. -/
def toSlots (a : Accumulator) : Slots := ⟨fun op => (a.slot? op).getD .null⟩

/-- The list that a collecting operator may be given: null for none, or the elements of a list, a
tuple or a set. -/
def readList (op : ListOperator) : Value → Except Issue (Option (List Value))
  | .null => .ok none
  | .list items => .ok (some items)
  | .tuple items => .ok (some items)
  | .set items => .ok (some items)
  | _ => .error ⟨[(Operator.collect op).name], .notAList⟩

/-- The accumulator that freely written values make, if the collecting operators hold lists. -/
def ofSlots (slots : Slots) : Except Fault Accumulator :=
  let read (op : ListOperator) := readList op (slots.get (.collect op))
  match read .eq, read .ne, read .bt, read .regex with
  | .ok eq, .ok ne, .ok bt, .ok regex =>
      .ok { eq, ne, bt, regex
            gt := slots.get .gt
            gte := slots.get .gte
            lte := slots.get .lte
            lt := slots.get .lt }
  | eq, ne, bt, regex => .error (.malformed (Issue.among [eq, ne, bt, regex]))

@[simp] theorem collected_setCollected_self (a : Accumulator) (op : ListOperator)
    (values : List Value) : (a.setCollected op values).collected op = some values := by
  cases op <;> rfl

/-- Writing one list leaves the others alone. -/
theorem collected_setCollected_of_ne {a : Accumulator} {op other : ListOperator}
    {values : List Value} (h : other ≠ op) :
    (a.setCollected op values).collected other = a.collected other := by
  cases op <;> cases other <;> simp_all [setCollected, collected]

@[simp] theorem bound_setCollected (a : Accumulator) (op : ListOperator) (values : List Value)
    (b : BoundOperator) : (a.setCollected op values).bound b = a.bound b := by
  cases op <;> cases b <;> rfl

@[simp] theorem bound_setBound_self (a : Accumulator) (op : BoundOperator) (v : Value) :
    (a.setBound op v).bound op = v := by
  cases op <;> rfl

/-- Writing one bound leaves the others alone. -/
theorem bound_setBound_of_ne {a : Accumulator} {op other : BoundOperator} {v : Value}
    (h : other ≠ op) : (a.setBound op v).bound other = a.bound other := by
  cases op <;> cases other <;> simp_all [setBound, bound]

@[simp] theorem collected_setBound (a : Accumulator) (op : BoundOperator) (v : Value)
    (l : ListOperator) : (a.setBound op v).collected l = a.collected l := by
  cases op <;> cases l <;> rfl

/-- A field is empty when it has nothing to show. -/
theorem isEmpty_iff_criteria_eq_nil (a : Accumulator) : a.isEmpty = true ↔ a.criteria = [] := by
  simp [isEmpty, criteria, has, List.filterMap_eq_nil_iff]

end Accumulator

end QueryFilter
