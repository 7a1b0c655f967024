import QueryFilter.Accumulator
import QueryFilter.Diagnostic
import QueryFilter.Value.Order

/-!
# QueryFilter.Conflict

What is gathered for one field may say the same thing twice. Equal values are listed once, and a
strict bound gives way to the other bound of its side where that one lies at or beyond it.

* `Accumulator.withoutDuplicates`, `Accumulator.withoutLowerConflict`,
  `Accumulator.withoutUpperConflict`: the three steps, each with its report.
* `Accumulator.settle`: all of them.
-/

namespace QueryFilter

namespace Accumulator

/-- Lists the values of the operators for equality and inequality once each. One report stands for
all that were removed. -/
def withoutDuplicates (name : Value) (a : Accumulator) : Accumulator × List Diagnostic :=
  let values (list : Option (List Value)) : List Value := list.getD []
  let shrinks (list : Option (List Value)) : Bool :=
    (Value.distinct (values list)).length < (values list).length
  ({ a with eq := a.eq.map Value.distinct, ne := a.ne.map Value.distinct },
    if shrinks a.eq || shrinks a.ne then [.duplicatesRemoved name] else [])

/-- Drops `>` where `>=` asks for no less. -/
def withoutLowerConflict (name : Value) (a : Accumulator) : Accumulator × List Diagnostic :=
  if a.has .gt && a.has .gte && a.gt.notAbove a.gte then
    ({ a with gt := .null }, [.lowerBoundRemoved name])
  else (a, [])

/-- Drops `<` where `<=` asks for no more than it. -/
def withoutUpperConflict (name : Value) (a : Accumulator) : Accumulator × List Diagnostic :=
  if a.has .lte && a.has .lt && a.lte.notAbove a.lt then
    ({ a with lt := .null }, [.upperBoundRemoved name])
  else (a, [])

/-- The report of a field that is left without any value. -/
def reportEmpty (name : Value) (a : Accumulator) : List Diagnostic :=
  if a.isEmpty then [.noValue name] else []

/-- What has been gathered for a field, without duplicates and bounds that say nothing more. -/
def settle (name : Value) (a : Accumulator) : Accumulator × List Diagnostic :=
  let (once, duplicated) := a.withoutDuplicates name
  let (lower, lowered) := once.withoutLowerConflict name
  let (upper, uppered) := lower.withoutUpperConflict name
  (upper, duplicated ++ lowered ++ uppered ++ upper.reportEmpty name)

end Accumulator

end QueryFilter
