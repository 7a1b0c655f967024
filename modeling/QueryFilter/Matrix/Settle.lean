import QueryFilter.Matrix.Basic
import QueryFilter.Sort

/-!
# QueryFilter.Matrix.Settle

From what has been gathered to what the filter says. The sort is read; every other field loses its
duplicates and redundant bounds; fields that are left without a value are dropped.

* `Matrix.settleSort`, `Matrix.settleField`: one field.
* `Matrix.settle`: all fields, in order.
-/

namespace QueryFilter.Matrix

/-- The sort that was gathered, read. -/
def settleSort (s : Schema) (cfg : Config) (tokens : List Value) : Logged (Option Accumulator) := do
  let values ← readSort s cfg false tokens
  if values.isEmpty then Logged.report [.noSortValue] none
  else return some { eq := some values }

/-- One field, or nothing if it is left without a value. -/
def settleField (s : Schema) (cfg : Config) (name : Value) (a : Accumulator) :
    Logged (Option Accumulator) :=
  let tokens := a.eq.getD []
  if FieldName.isSort name && !tokens.isEmpty then settleSort s cfg tokens
  else
    let (settled, reports) := a.settle name
    .report reports (if settled.isEmpty then none else some settled)

/-- All fields, in order, without those that are left without a value. -/
def settle (s : Schema) (cfg : Config) : Matrix → Logged Matrix
  | [] => pure []
  | (name, a) :: rest => do
      match ← settleField s cfg name a with
      | some settled =>
          let more ← settle s cfg rest
          return (name, settled) :: more
      | none => settle s cfg rest

end QueryFilter.Matrix
