import QueryFilter.Value.Basic
import QueryFilter.Number.Decimal
import QueryFilter.Text.Quoted

/-!
# QueryFilter.Value.Printer

Values as text.

* `Value.quoted`: the text of a value inside another one, where texts are in quotes.
* `Value.display`: the text of a value in a message, where a text stands as it is.
-/

namespace QueryFilter

namespace Value

/-- The texts with a separator between them. -/
def separated (separator : String) (parts : List String) : String := separator.intercalate parts

/-- The fields of a schema entry in the order in which they are shown, the ones that were not given
with their defaults. -/
def shownFields (fields : List (String × String)) : List (String × String) :=
  let standard := [("transfn", "None"), ("default", "None"), ("default_op", "None"),
    ("read_only", "False")]
  standard.map (fun field => (field.1, (fields.lookup field.1).getD field.2)) ++
    fields.filter fun field => (standard.lookup field.1).isNone

/-- Named parts with a separator between them. -/
def namedParts (separator : String) (parts : List (String × String)) : String :=
  separated separator (parts.map fun part => part.1 ++ "=" ++ part.2)

mutual

/-- The text of a value inside another one. -/
def quoted : Value → String
  | .null => "None"
  | .bool b => if b then "True" else "False"
  | .int n => renderInt n
  | .float x => x.render
  | .text s => Text.quote s
  | .bytes content => Text.quoteBytes content
  | .list items => "[" ++ separated ", " (quotedItems items) ++ "]"
  | .tuple [item] => "(" ++ quoted item ++ ",)"
  | .tuple items => "(" ++ separated ", " (quotedItems items) ++ ")"
  | .set [] => "set()"
  | .set items => "\x7b" ++ separated ", " (quotedItems items) ++ "\x7d"
  | .mapping entries => "\x7b" ++ separated ", " (quotedEntries entries) ++ "\x7d"
  | .object attributes => "namespace(" ++ namedParts ", " (quotedFields attributes) ++ ")"
  | .callable (.ofType name) => "<class '" ++ name ++ "'>"
  | .callable (.supplied name) => "<function " ++ name ++ ">"
  | .callable .numeric => "<function numeric>"
  | .callable .standard => "<function standard>"
  | .descriptor fields =>
      "VariableDescriptor(" ++ namedParts ", " (shownFields (quotedFields fields)) ++ ")"
termination_by structural v => v

/-- The texts of several values. -/
def quotedItems : List Value → List String
  | [] => []
  | v :: rest => quoted v :: quotedItems rest
termination_by structural v => v

/-- The texts of a mapping's entries. -/
def quotedEntries : List (Value × Value) → List String
  | [] => []
  | (k, v) :: rest => (quoted k ++ ": " ++ quoted v) :: quotedEntries rest
termination_by structural v => v

/-- The texts of named values. -/
def quotedFields : List (String × Value) → List (String × String)
  | [] => []
  | (name, v) :: rest => (name, quoted v) :: quotedFields rest
termination_by structural v => v

end

/-- The text of a value in a message. -/
def display : Value → String
  | .text s => s
  | .descriptor fields => namedParts " " (shownFields (quotedFields fields))
  | v => v.quoted

end Value

end QueryFilter
