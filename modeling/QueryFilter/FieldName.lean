import QueryFilter.Value.Equality

/-!
# QueryFilter.FieldName

The names of the fields that say which page of the results is wanted, and in which order, and of
the parts that a result has.

* `FieldName.sort`, `FieldName.pageNo`, `FieldName.pageSize`: the reserved fields.
* `FieldName.query`, `FieldName.pagination`: the parts of a result.
* `FieldName.isPageKey`, `FieldName.isReserved`: is a value one of them?
-/

namespace QueryFilter.FieldName

/-- The field of the sort. -/
def sort : String := "sort"

/-- The field of the page's number. -/
def pageNo : String := "page_no"

/-- The field of the page's size. -/
def pageSize : String := "page_size"

/-- The part of a result that filters. -/
def query : String := "query"

/-- The part of a result, or of a configuration, that says which page and which order. -/
def pagination : String := "pagination"

/-- Is it the field of the sort? -/
def isSort (name : Value) : Bool := .text sort == name

/-- Is it a field of the page? -/
def isPageKey (name : Value) : Bool := .text pageNo == name || .text pageSize == name

/-- Is it a field of the pagination, and so not one to filter on? -/
def isReserved (name : Value) : Bool := isSort name || isPageKey name

end QueryFilter.FieldName
