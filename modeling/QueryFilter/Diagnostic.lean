import QueryFilter.Fault

/-!
# QueryFilter.Diagnostic

What is reported about a request that is read all the same.

* `Diagnostic`: the causes.
* `Diagnostic.message`: their texts.
* `Logged`: a result, or the fault that stopped it, together with the diagnostics up to there.
-/

namespace QueryFilter

/-- Something that was left out of a request, or mended. Names are values, for a caller may rename
fields to anything. -/
inductive Diagnostic where
  /-- a field without a name -/
  | emptyName
  /-- a field that the schema does not know -/
  | unknownField (name : Value)
  /-- a field that requests may not filter on -/
  | readOnlyField (name : Value)
  /-- a pagination field under an operator other than equality -/
  | paginationOperator
  /-- a pagination field whose default has an operator other than equality -/
  | paginationDefaultOperator
  /-- a default whose operator does not exist -/
  | unknownOperator (name : String)
  /-- a default of which only the first element is used -/
  | firstDefaultOnly (name : Value)
  /-- a default with a collection among its elements -/
  | nestedDefault
  /-- a default that is a mapping where it may not be -/
  | mappingDefault
  | duplicatesRemoved (name : Value)
  /-- a lower bound that says no more than the other -/
  | lowerBoundRemoved (name : Value)
  /-- an upper bound that gave way to the other -/
  | upperBoundRemoved (name : Value)
  /-- a field that is left without any value -/
  | noValue (name : Value)
  /-- bounds that have no common order -/
  | incomparable (name : Value)
  /-- a sort token that is no field, where no direction is expected -/
  | unexpectedSortToken (token : Value)
  /-- a field that the schema does not know as one to sort by -/
  | sortFieldNotAllowed (token : Value)
  /-- a sort without any field -/
  | noSortValue

/-- The text of a diagnostic. -/
def Diagnostic.message : Diagnostic → String
  | .emptyName => "invalid empty name"
  | .unknownField name => "skipped, variable not found " ++ name.display
  | .readOnlyField name => "skipped, readonly for " ++ name.display
  | .paginationOperator => "pagination key takes = operator only"
  | .paginationDefaultOperator =>
      "wrong default in variable(1), pagination key takes eq operator only"
  | .unknownOperator name => "not supported op: " ++ name
  | .firstDefaultOnly name => "use default[0] only for " ++ name.display
  | .nestedDefault => "wrong default in variable(2), object type not allowed"
  | .mappingDefault => "wrong default in variable(3), object type not allowed"
  | .duplicatesRemoved name =>
      "one or more value item removed due to duplicated for " ++ name.display
  | .lowerBoundRemoved name => "both > and >= exist, keep the max one for " ++ name.display
  | .upperBoundRemoved name => "both < and <= exist, keep the min one for " ++ name.display
  | .noValue name => "skipped, due no value for " ++ name.display
  | .incomparable name => "skipped, incomparable values for " ++ name.display
  | .unexpectedSortToken token => "skipped, unexpected " ++ token.display
  | .sortFieldNotAllowed token => "skipped, sort by field not allowed: " ++ token.display
  | .noSortValue => "skipped, due no value for sort"

/-- The outcome of a computation: a result or the fault that stopped it, and the diagnostics that
were reported on the way, in order. A fault does not take them back. -/
structure Logged (α : Type) where
  diagnostics : List Diagnostic
  result : Except Fault α

namespace Logged

variable {α β : Type}

/-- A result without a diagnostic. -/
protected def pure (a : α) : Logged α := ⟨[], .ok a⟩

/-- One computation after the other; the second one's diagnostics follow. -/
protected def bind (x : Logged α) (f : α → Logged β) : Logged β :=
  match x.result with
  | .ok a =>
      let y := f a
      ⟨x.diagnostics ++ y.diagnostics, y.result⟩
  | .error fault => ⟨x.diagnostics, .error fault⟩

instance : Monad Logged where
  pure := Logged.pure
  bind := Logged.bind

/-- A report. -/
def note (d : Diagnostic) : Logged Unit := ⟨[d], .ok ()⟩

/-- A result with the reports that came with it. -/
def report (diagnostics : List Diagnostic) (a : α) : Logged α := ⟨diagnostics, .ok a⟩

/-- A computation that may fail and reports nothing. -/
def ofExcept (result : Except Fault α) : Logged α := ⟨[], result⟩

instance : MonadLift (Except Fault) Logged := ⟨ofExcept⟩

/-- The texts of the diagnostics. -/
def messages (x : Logged α) : List String := x.diagnostics.map Diagnostic.message

@[simp] theorem pure_eq (a : α) : (pure a : Logged α) = ⟨[], .ok a⟩ := rfl

@[simp] theorem bind_ok (ds : List Diagnostic) (a : α) (f : α → Logged β) :
    ((⟨ds, .ok a⟩ : Logged α) >>= f) = ⟨ds ++ (f a).diagnostics, (f a).result⟩ := rfl

@[simp] theorem bind_error (ds : List Diagnostic) (fault : Fault) (f : α → Logged β) :
    ((⟨ds, .error fault⟩ : Logged α) >>= f) = ⟨ds, .error fault⟩ := rfl

end Logged

end QueryFilter
