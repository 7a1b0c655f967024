import QueryFilter.Coercion
import QueryFilter.Descriptor
import QueryFilter.Diagnostic
import QueryFilter.FieldName

/-!
# QueryFilter.Schema

Which fields a request may filter on. A schema is a table of entries, a function that looks them up,
or neither, in which case every field is accepted; a further function may rename fields before they
are looked up.

* `Schema`: the parts, each of which may be missing.
* `Schema.entry`: what the schema knows about a field.
* `Schema.check`: the descriptor of a field, or a report why the field is left out.
-/

namespace QueryFilter

/-- A caller's function of a field's name and the configuration. -/
abbrev NameFunction := Value → Config → Except Fault Value

/-- A schema, its parts, and what the caller's conversions do. -/
structure Schema where
  /-- entries by field name; also where defaults come from -/
  template : Option (Mapping Value) := none
  /-- looks up an entry, in place of the template -/
  lookup : Option NameFunction := none
  /-- renames a field before it is looked up -/
  rename : Option NameFunction := none
  conversions : Conversions := fun _ v => .ok v

/-- Does what a lookup gave count as an entry? A mapping does even if it is empty. -/
def Value.isEntry (entry : Value) : Bool := entry.isMapping || entry.isTruthy

namespace Schema

/-- Looks an entry up in a table. -/
def lookupIn (table : Mapping Value) : NameFunction := fun name _ => do
  let key ← name.asKey
  return (Mapping.lookup? key table).getD .null

/-- How entries are looked up, if they are. -/
def lookup? (s : Schema) : Option NameFunction := s.lookup.or (s.template.map lookupIn)

/-- Is every field accepted? -/
def acceptsAll (s : Schema) : Bool := s.lookup?.isNone

/-- Are the fields of a sort looked up? Only where they can be renamed as well. -/
def checksSort (s : Schema) : Bool := s.lookup?.isSome && s.rename.isSome

/-- A field's name as the schema knows it. -/
def normalize (s : Schema) (name : Value) (cfg : Config) : Except Fault Value :=
  match s.rename with
  | some rename => rename name cfg
  | none => .ok name

/-- What the schema knows about a field; null if nothing. -/
def entry (s : Schema) (name : Value) (cfg : Config) : Except Fault Value :=
  match s.lookup? with
  | some find => find name cfg
  | none => .ok .null

/-- May results be sorted by the field? -/
def isSortable (s : Schema) (name : Value) (cfg : Config) : Except Fault Bool :=
  return (← s.entry name cfg).isEntry

/-- The descriptor of a pagination field that the schema does not know: the sort is taken as it is,
and page numbers and sizes are read as numbers. -/
def reservedDescriptor? (name : Value) : Option Descriptor :=
  if FieldName.isSort name then some {}
  else if FieldName.isPageKey name then some { conversion := .callable .numeric }
  else none

/-- The descriptor of a field, if its entry allows the operator. -/
def checkEntry (name : Value) (op : Operator) (d : Descriptor) : Logged (Option Descriptor) :=
  if d.readOnly then .report [.readOnlyField name] none
  else if FieldName.isReserved name && op != .eq then .report [.paginationOperator] none
  else .report [] (some d)

/-- The descriptor of a field under an operator, or a report why the field is left out. -/
def check (s : Schema) (name : Value) (op : Operator) (cfg : Config) :
    Logged (Option Descriptor) := do
  if !name.isTruthy then Logged.report [.emptyName] none
  else if s.acceptsAll then return some {}
  else
    let entry ← s.entry name cfg
    if entry.isEntry then
      let d ← Descriptor.ofValue entry
      checkEntry name op d
    else
      match reservedDescriptor? name with
      | some d => return some d
      | none => Logged.report [.unknownField name] none

end Schema

end QueryFilter
