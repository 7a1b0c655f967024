import QueryFilter.Matrix.Settle
import QueryFilter.Pagination
import QueryFilter.Token

/-!
# QueryFilter.Request

A query string, compiled. Its pairs are read and gathered one by one, the missing defaults are
written, the fields are settled, and the result is the filter, the configuration, and the pagination.

* `Request`: the pairs of a query string.
* `gatherPair`, `gatherPairs`: from pairs to a matrix.
* `compile`: a request's result.
-/

namespace QueryFilter

/-- The pairs of a query string, in order: keys and raw values. -/
abbrev Request := List (String × Value)

/-- One pair, gathered into the matrix, or left out with a report. -/
def gatherPair (s : Schema) (cfg : Config) (m : Matrix) (pair : String × Value) :
    Logged Matrix := do
  let token := Token.read pair.1 pair.2
  let name ← s.normalize (.text token.name) cfg
  match ← s.check name token.operator cfg with
  | none => return m
  | some d =>
      let g ← m.gather s.conversions d name token.value token.operator
      Logged.report g.diagnostics g.matrix

/-- The pairs of a request, gathered one after the other. -/
def gatherPairs (s : Schema) (cfg : Config) : Matrix → Request → Logged Matrix
  | m, [] => pure m
  | m, pair :: rest => do
      let m ← gatherPair s cfg m pair
      gatherPairs s cfg m rest

/-- The matrix of a request with the missing defaults, and the fields that got one. -/
def gatherRequest (s : Schema) (cfg : Config) (request : Request) :
    Logged (Matrix × List Value) := do
  let m ← gatherPairs s cfg [] request
  (fillDefaults cfg (s.template.getD []) m).toLogged

/-- The result: the filter in front, then the configuration, in which a field for the filter wins,
and the pagination in the place of the configuration's or at the end. -/
def assemble (filter : Mapping Value) (cfg : Config) (pagination : Option Pagination) :
    Mapping Value :=
  let fields := cfg.foldl (fun m e => Mapping.put e.1 e.2 m)
    [(.text FieldName.query, .mapping filter)]
  match pagination with
  | some p => Mapping.put (.text FieldName.pagination) (.mapping p.toMapping) fields
  | none => Mapping.erase (.text FieldName.pagination) fields

/-- A request compiled under a schema and a configuration. The fallback is the page value of a
configuration whose pagination section lacks one. -/
def compile (s : Schema) (fallback : Value) (request : Request) (cfg : Config) :
    Logged (Mapping Value) := do
  let (gathered, defaulted) ← gatherRequest s cfg request
  let settled ← Matrix.settle s cfg gathered
  let query := settled.criteria
  let sortDefaulted := defaulted.any FieldName.isSort
  let pagination ← Pagination.ofQuery query cfg sortDefaulted fallback
  return assemble (filterOf query) cfg pagination

end QueryFilter
