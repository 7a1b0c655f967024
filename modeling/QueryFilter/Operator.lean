import QueryFilter.Mapping

/-!
# QueryFilter.Operator

The filter operators. Some collect all the values given for a field, some keep one bound.

* `ListOperator`, `BoundOperator`, `Operator`: the operators, by what they keep.
* `Operator.all`: all of them, in the order in which a field's filter lists them.
* `Operator.name`, `Operator.ofName?`: their names, and back.
-/

namespace QueryFilter

/-- The operators that collect values. -/
inductive ListOperator where
  | eq
  | ne
  | bt
  | regex
  deriving DecidableEq, Repr

/-- The operators that keep one bound. -/
inductive BoundOperator where
  | gt
  | gte
  | lte
  | lt
  deriving DecidableEq, Repr

/-- A filter operator. -/
inductive Operator where
  | collect (op : ListOperator)
  | bound (op : BoundOperator)
  deriving DecidableEq, Repr

/-- Is it a lower bound, of which the greatest is kept? -/
def BoundOperator.keepsGreatest : BoundOperator → Bool
  | .gt => true
  | .gte => true
  | .lte => false
  | .lt => false

namespace Operator

@[match_pattern] abbrev eq : Operator := .collect .eq
@[match_pattern] abbrev ne : Operator := .collect .ne
@[match_pattern] abbrev bt : Operator := .collect .bt
@[match_pattern] abbrev regex : Operator := .collect .regex
@[match_pattern] abbrev gt : Operator := .bound .gt
@[match_pattern] abbrev gte : Operator := .bound .gte
@[match_pattern] abbrev lte : Operator := .bound .lte
@[match_pattern] abbrev lt : Operator := .bound .lt

/-- All operators, in the order in which a field's filter lists them. -/
def all : List Operator := [eq, ne, bt, gt, gte, lte, lt, regex]

/-- The operator's name. -/
def name : Operator → String
  | eq => "eq"
  | ne => "ne"
  | bt => "bt"
  | gt => "gt"
  | gte => "gte"
  | lte => "lte"
  | lt => "lt"
  | regex => "regex"

/-- The operator with that name. -/
def ofName? (name : String) : Option Operator := all.find? fun op => op.name == name

/-- The operator with that name; what is no text names none. -/
def ofValue? : Value → Option Operator
  | .text name => ofName? name
  | _ => none

/-- Does it keep one bound? -/
def isBound : Operator → Bool
  | .collect _ => false
  | .bound _ => true

/-- Does it keep the greatest of the values given? -/
def keepsGreatest : Operator → Bool
  | .collect _ => false
  | .bound op => op.keepsGreatest

theorem mem_all (op : Operator) : op ∈ all := by
  rcases op with op | op <;> cases op <;> simp [all]

/-- An operator is found by its name. -/
@[simp] theorem ofName?_name (op : Operator) : ofName? op.name = some op := by
  rcases op with op | op <;> cases op <;> rfl

end Operator

end QueryFilter
