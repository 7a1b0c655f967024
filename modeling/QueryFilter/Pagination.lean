import QueryFilter.Default
import QueryFilter.Sort

/-!
# QueryFilter.Pagination

Which page of the results is wanted, and in which order. Both come from a request's reserved fields
and, where the request is silent, from the configuration.

* `Pagination`: the directive; each part may be left unset.
* `Pagination.ofQuery`: the directive of a request.
* `equalTo`: what a query asks for, which may have been written by hand and so in any form.
* `Pagination.toMapping`, `Pagination.ofMapping`: the directive as a mapping, and back.
* `filterOf`: the part of a query that filters.
-/

namespace QueryFilter

/-- A pagination directive. A part that is set may still be set to null. -/
structure Pagination where
  pageNo : Option Value := none
  pageSize : Option Value := none
  sort : Option (Option (Mapping Value)) := none
  /-- did the sort come from a default? -/
  sortDefault : Option (Option Bool) := none

/-- The field that says whether the sort came from a default. -/
def sortDefaultField : String := "sort_default"

/-- The parts of a query that filter: all but the reserved fields. -/
def filterOf (query : Mapping Value) : Mapping Value :=
  query.filter fun e => !FieldName.isReserved e.1

/-- What a query holds for a field under equality: nothing, which is an empty list, or the values,
in whatever form. A field that holds something must be a mapping. -/
def equalTo (query : Mapping Value) (field : String) : Except Fault Value :=
  let held := Mapping.getOrNull field query
  match held with
  | .mapping entries =>
      let values := Mapping.getOrNull Operator.eq.name entries
      .ok (if values.isTruthy then values else .list [])
  | held => if held.isTruthy then .error (.lacks held.subject "get") else .ok (.list [])

/-- What a configuration says about a reserved field. Its pagination section is asked first. -/
def configuredValue (cfg : Config) (field : String) : Value :=
  let own := Mapping.getOrNull field cfg
  match Mapping.find? FieldName.pagination cfg with
  | some (.mapping entries) =>
      let sectioned := Mapping.getOrNull field entries
      if sectioned.isNull then own else sectioned
  | _ => own

/-- Does a configuration have a pagination section? -/
def hasPaginationSection (cfg : Config) : Bool :=
  match Mapping.find? FieldName.pagination cfg with
  | some v => v.isMapping
  | none => false

/-- The sort that a configuration holds: a mapping, or a list in which fields and directions
alternate. An empty one is none. -/
def configuredSort (cfg : Config) : Except Fault (Mapping Value) :=
  let v := configuredValue cfg FieldName.sort
  match v with
  | .mapping entries => .ok entries
  | v =>
      match v.items? with
      | some items => sortMapping items
      | none => .ok []

namespace Pagination

/-- The value of a page field that is not requested: the configured one, else the fallback, which
only a configuration with a pagination section has. -/
def unrequestedPageValue (cfg : Config) (fallback : Value) (field : String) : Option Value :=
  let configured := configuredValue cfg field
  if !configured.isNull then some configured
  else if hasPaginationSection cfg then some fallback
  else none

/-- The value of a page field: the last one requested, else the one that stands in for it. -/
def pageValue (query : Mapping Value) (cfg : Config) (fallback : Value) (field : String) :
    Except Fault (Option Value) := do
  let requested ← equalTo query field
  if requested.isTruthy then return some (← requested.getAt (-1))
  else return unrequestedPageValue cfg fallback field

/-- Does a query ask for a page? The page number is looked at first. -/
def asksForPage (query : Mapping Value) : Except Fault Bool := do
  if (← equalTo query FieldName.pageNo).isTruthy then return true
  else return (← equalTo query FieldName.pageSize).isTruthy

/-- The page fields of a request that asks for a page. -/
def ofPage (query : Mapping Value) (cfg : Config) (fallback : Value) :
    Except Fault Pagination := do
  let pageNo ← pageValue query cfg fallback FieldName.pageNo
  let pageSize ← pageValue query cfg fallback FieldName.pageSize
  return { pageNo, pageSize }

/-- The sort of a request, else the configured one, which is a default. -/
def withSort (requested : Value) (sortDefaulted : Bool) (configured : Mapping Value)
    (p : Pagination) : Except Fault Pagination := do
  if requested.isTruthy then
    let sort ← sortOf requested
    return { p with sort := some (some sort), sortDefault := some (some sortDefaulted) }
  else if !configured.isEmpty then
    return { p with sort := some (some configured), sortDefault := some (some true) }
  else return p

/-- The directive of a request, or nothing if it asks for neither a page nor a sort and no sort is
configured. The page fields are set when the request has one of them. `sortDefaulted` says that the
sort in the query is a default. -/
def ofQuery (query : Mapping Value) (cfg : Config) (sortDefaulted : Bool) (fallback : Value) :
    Except Fault (Option Pagination) := do
  let hasPage ← asksForPage query
  let requested ← equalTo query FieldName.sort
  let configured ← configuredSort cfg
  if !hasPage && !requested.isTruthy && configured.isEmpty then return none
  let page ← if hasPage then ofPage query cfg fallback else pure {}
  return some (← page.withSort requested sortDefaulted configured)

/-- The parts that are set, by name, in order; schema entries in them become mappings. -/
def toMapping (p : Pagination) : Mapping Value :=
  [(FieldName.pageNo, p.pageNo), (FieldName.pageSize, p.pageSize),
    (FieldName.sort, p.sort.map (Value.ofOption .mapping)),
    (sortDefaultField, p.sortDefault.map (Value.ofOption .bool))].filterMap fun part =>
      part.2.map fun v => (.text part.1, v.plain)

/-- Reads a sort: null or a mapping. -/
def readSortField : Value → Except Issue.Reason (Option (Option (Mapping Value)))
  | .null => .ok (some none)
  | .mapping entries => .ok (some (some entries))
  | _ => .error .notAMapping

/-- Reads the mark of a default: null or a truth value. -/
def readDefaultMark : Value → Except Issue.Reason (Option (Option Bool))
  | .null => .ok (some none)
  | v => (readTruth v).map fun b => some (some b)

/-- The directive that a mapping holds; what else it holds is ignored. -/
def ofMapping (fields : Mapping Value) : Except Fault Pagination :=
  match Descriptor.readField FieldName.sort none readSortField fields,
      Descriptor.readField sortDefaultField none readDefaultMark fields with
  | .ok sort, .ok sortDefault =>
      .ok { pageNo := Mapping.find? FieldName.pageNo fields
            pageSize := Mapping.find? FieldName.pageSize fields
            sort
            sortDefault }
  | sort, mark =>
      .error (.malformed (Issue.among [sort] ++ Issue.among [mark]))

end Pagination

end QueryFilter
