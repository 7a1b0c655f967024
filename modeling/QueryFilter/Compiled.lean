import QueryFilter.Pagination

/-!
# QueryFilter.Compiled

A compiled request taken apart: the filter, the pagination, the diagnostics, and what the
configuration passed through.

* `Compiled`: the parts.
* `Compiled.ofMapping`: the parts of a compiled request, which must have their forms.
* `Compiled.toMapping`: the parts together again.
* `Compiled.requireClean`: a result, refused if there are diagnostics.
-/

namespace QueryFilter

/-- A compiled request, taken apart. -/
structure Compiled where
  query : Mapping Value := []
  pagination : Option Pagination := none
  messages : List String := []
  extras : Mapping Value := []

namespace Compiled

/-- The place that stands for a key itself. -/
def keyPlace : String := "[key]"

/-- Reads a key that must be a text: itself, or bytes that spell it. -/
def readKey (path : List String) : Value → Except (List Issue) Value
  | .text s => .ok (.text s)
  | .bytes content =>
      match textOfBytes? content with
      | some s => .ok (.text s)
      | none => .error [⟨path ++ [placeOfKey (.bytes content), keyPlace], .brokenText⟩]
  | key => .error [⟨path ++ [placeOfKey key, keyPlace], .notAText⟩]

/-- Reads the entries of a mapping whose keys must be texts. The issues of all entries are gathered,
those of a key before those of its value. -/
def readEntries (path : List String)
    (readValue : List String → Value → Except (List Issue) Value) :
    Mapping Value → Mapping Value → Except (List Issue) (Mapping Value)
  | done, [] => .ok done
  | done, (key, v) :: rest =>
      match readKey path key, readValue (path ++ [placeOfKey key]) v with
      | .ok key, .ok v => readEntries path readValue (Mapping.put key v done) rest
      | key, v =>
          let issues := issuesOf key ++ issuesOf v
          match readEntries path readValue done rest with
          | .ok _ => .error issues
          | .error more => .error (issues ++ more)
where
  /-- The issues of a reading. -/
  issuesOf {α : Type} : Except (List Issue) α → List Issue
    | .ok _ => []
    | .error issues => issues

/-- Reads a mapping from texts to any values. -/
def readMapping (path : List String) : Value → Except (List Issue) Value
  | .mapping entries =>
      (readEntries path (fun _ v => .ok v) [] entries).map .mapping
  | _ => .error [⟨path, .notAMapping⟩]

/-- Reads a filter: a mapping from names to mappings from texts. -/
def readQuery (path : List String) : Value → Except (List Issue) (Mapping Value)
  | .mapping entries => readEntries path readMapping [] entries
  | _ => .error [⟨path, .notAMapping⟩]

/-- The pagination of a compiled request; null stands for none. Its parts must have names. -/
def readPagination (result : Mapping Value) : Except Fault (Option Pagination) :=
  match Mapping.getOrNull FieldName.pagination result with
  | .null => .ok none
  | .mapping fields =>
      if fields.any fun e => (Descriptor.keyIssue? e.1).isSome then .error .namelessPart
      else (Pagination.ofMapping fields).map some
  | v => .error (.noParts v.typeWord)

/-- The fields that are neither the filter nor the pagination. -/
def extrasOf (result : Mapping Value) : Mapping Value :=
  result.filter fun e => !(.text FieldName.query == e.1 || .text FieldName.pagination == e.1)

/-- The parts of a compiled request. A filter that counts as not given is empty. -/
def ofMapping (result : Mapping Value) (messages : List String) : Except Fault Compiled := do
  let pagination ← readPagination result
  let query := Mapping.getOrNull FieldName.query result
  match readQuery [FieldName.query] (if query.isTruthy then query else .mapping []),
      readEntries ["extras"] (fun _ v => .ok v) [] (extrasOf result) with
  | .ok query, .ok extras => return { query, pagination, messages, extras }
  | query, extras =>
      throw (.malformed (readEntries.issuesOf query ++ readEntries.issuesOf extras))

/-- Are there diagnostics? -/
def hasDiagnostics (r : Compiled) : Bool := !r.messages.isEmpty

/-- The parts together again: the filter, what was passed through, and the pagination. -/
def toMapping (r : Compiled) : Mapping Value :=
  let fields := r.extras.foldl (fun m e => Mapping.put e.1 e.2 m)
    [(.text FieldName.query, .mapping r.query)]
  match r.pagination with
  | some p => Mapping.put (.text FieldName.pagination) (.mapping p.toMapping) fields
  | none => fields

/-- The result, refused if there are diagnostics. -/
def requireClean (r : Compiled) : Except Fault Compiled :=
  if r.hasDiagnostics then .error (.rejected r.messages) else .ok r

end Compiled

end QueryFilter
