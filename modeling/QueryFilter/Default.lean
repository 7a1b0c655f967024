import QueryFilter.Matrix.Basic
import QueryFilter.FieldName

/-!
# QueryFilter.Default

Defaults for the fields that a request leaves out. A default is written into the matrix as if the
request had given it; the configuration may put its own in the place of the schema's.

* `Descriptor.defaultAccumulator`: what a field's default gathers, or the report why it may not.
* `Matrix.writeDefault`: the default written.
* `defaultDescriptor?`: the descriptor whose default a missing field gets.
* `fillDefaults`: all the missing defaults.
-/

namespace QueryFilter

/-- Is this a mapping, a list, a tuple or a set? -/
def Value.isCollection : Value → Bool
  | .mapping _ => true
  | .list _ => true
  | .tuple _ => true
  | .set _ => true
  | _ => false

/-- A mapping from fields to directions as a list in which they alternate. -/
def flattenSort : Mapping Value → List Value
  | [] => []
  | (field, direction) :: rest => field :: direction :: flattenSort rest

namespace Descriptor

/-- The value that a default gives to a bound: the first element of a list or a tuple, with a
report, and any other value itself. -/
def boundDefault (name : Value) (d : Value) : Value × List Diagnostic :=
  match d.items? with
  | some items => (items.head?.getD .null, [.firstDefaultOnly name])
  | none => (d, [])

/-- The values that a default gives to an operator that collects. -/
def collectedDefault (name : Value) (op : ListOperator) (d : Value) :
    Except Diagnostic (List Value) :=
  match d.items? with
  | some items => if items.any Value.isCollection then .error .nestedDefault else .ok items
  | none =>
      match d with
      | .mapping entries =>
          if op = .eq ∧ FieldName.isSort name then .ok (flattenSort entries)
          else .error .mappingDefault
      | d => .ok [d]

/-- The name of the default's operator: equality, unless another one is named. -/
def operatorName (d : Descriptor) : String :=
  match d.defaultOperator with
  | some op => if op = "" then Operator.eq.name else op
  | none => Operator.eq.name

/-- What a field's default gathers, with reports, or the report why it may not be a default. -/
def defaultAccumulator (name : Value) (d : Descriptor) :
    Except Diagnostic (Accumulator × List Diagnostic) :=
  if FieldName.isReserved name && d.operatorName != Operator.eq.name then
    .error .paginationDefaultOperator
  else
    let value := d.default.getD .null
    match Operator.ofName? d.operatorName with
    | none => .error (.unknownOperator d.operatorName)
    | some (.bound op) =>
        let (bound, reports) := boundDefault name value
        .ok (Accumulator.empty.setBound op bound, reports)
    | some (.collect op) =>
        match collectedDefault name op value with
        | .ok values => .ok (Accumulator.empty.setCollected op values, [])
        | .error d => .error d

end Descriptor

/-- The default of a field written into the matrix, in the place of what was there. -/
def Matrix.writeDefault (name : Value) (d : Descriptor) (m : Matrix) : Gathering :=
  match d.defaultAccumulator name with
  | .ok (a, reports) => ⟨Mapping.put name a m, true, reports⟩
  | .error report => ⟨m, false, [report]⟩

/-- What a configuration says in the place of a field's default. For a pagination field its own
section is asked first. -/
def overriding (name : Value) (cfg : Config) : Value :=
  let own := (Mapping.lookup? name cfg).getD .null
  match Mapping.find? FieldName.pagination cfg with
  | some (.mapping entries) =>
      let sectioned := (Mapping.lookup? name entries).getD .null
      if FieldName.isReserved name && sectioned.isTruthy then sectioned else own
  | _ => own

/-- The descriptor that a configuration puts in the place of a schema's: a mapping is one itself,
another value is its default. -/
def overrideDescriptor : Value → Except Fault Descriptor
  | .mapping entries => Descriptor.ofFields entries
  | v => .ok { default := some v }

/-- The descriptor whose default a field gets, if the field is missing and its entry has a default.
Pagination that the configuration holds is not a default to write. -/
def defaultDescriptor? (name entry : Value) (cfg : Config) (m : Matrix) :
    Except Fault (Option Descriptor) := do
  if Mapping.hasKey name m || entry.isNull then return none
  let d ← Descriptor.ofValue entry
  if d.default.isNone then return none
  let override := overriding name cfg
  if !override.isTruthy then return some d
  if FieldName.isReserved name then return none
  return some (← overrideDescriptor override)

/-- What became of the defaults: the matrix with them, the fields that got one, the reports, and the
fault that stopped it, if one did. -/
structure Filling where
  matrix : Matrix
  defaulted : List Value
  diagnostics : List Diagnostic
  fault : Option Fault

/-- Writes the default of every field of the template that the matrix lacks, in the template's
order. -/
def fillDefaults (cfg : Config) : Mapping Value → Matrix → Filling
  | [], m => ⟨m, [], [], none⟩
  | (name, entry) :: rest, m =>
      match defaultDescriptor? name entry cfg m with
      | .error fault => ⟨m, [], [], some fault⟩
      | .ok none => fillDefaults cfg rest m
      | .ok (some d) =>
          let written := m.writeDefault name d
          let more := fillDefaults cfg rest written.matrix
          { more with
            defaulted := if written.gathered then name :: more.defaulted else more.defaulted
            diagnostics := written.diagnostics ++ more.diagnostics }

/-- The matrix and the fields that got a default, with the reports. -/
def Filling.toLogged (filling : Filling) : Logged (Matrix × List Value) :=
  ⟨filling.diagnostics, match filling.fault with
    | some fault => .error fault
    | none => .ok (filling.matrix, filling.defaulted)⟩

end QueryFilter
