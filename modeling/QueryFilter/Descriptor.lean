import QueryFilter.Fault
import QueryFilter.Mapping

/-!
# QueryFilter.Descriptor

What a schema says about one field. It is written as a mapping, as an object with attributes, or
built already.

* `Descriptor`: the reading.
* `Descriptor.ofValue`: how a schema's entry is read.
* `Descriptor.build`: an entry that is built ahead of its use.
* `readTruth`, `readText`: the forms that truth values and texts may have there.
-/

namespace QueryFilter

/-- What a schema says about one field. -/
structure Descriptor where
  /-- how values are converted, if this is a conversion -/
  conversion : Value := .null
  /-- the value of a field that a request leaves out; it may be given as null -/
  default : Option Value := none
  /-- the name of the default's operator -/
  defaultOperator : Option String := none
  /-- requests may not filter on the field -/
  readOnly : Bool := false
  /-- whatever else the entry says -/
  extra : Mapping Value := []

/-- The texts for false. -/
def falseTexts : List String := ["0", "f", "n", "no", "off", "false"]

/-- The texts for true. -/
def trueTexts : List String := ["1", "t", "y", "on", "yes", "true"]

/-- The text with its ASCII letters in lower case. -/
def lowerAscii (s : String) : String := String.ofList (s.toList.map Char.toLower)

/-- The truth value that a text spells, in any letter case. -/
def truthOfText (s : String) : Except Issue.Reason Bool :=
  if trueTexts.contains (lowerAscii s) then .ok true
  else if falseTexts.contains (lowerAscii s) then .ok false
  else .error .unknownTruth

/-- What the sign bit of an integer of 64 bits is worth. -/
def signBit : Int := Nat.pow 2 63

/-- The truth value that an integer of 64 bits stands for: one or zero. -/
def truthOfInt (n : Int) : Except Issue.Reason Bool :=
  if n = 1 then .ok true
  else if n = 0 then .ok false
  else if -signBit ≤ n ∧ n < signBit then .error .unknownTruth
  else .error .notATruth

/-- The truth value that a float stands for. It counts as the integer that it equals, if that one
lies strictly between the ends of 64 bits. -/
def truthOfFloat (x : Binary64) : Except Issue.Reason Bool :=
  match x.toInt? with
  | some n => if n = -signBit then .error .notATruth else truthOfInt n
  | none => .error .notATruth

/-- The text that bytes spell in UTF-8. -/
def textOfBytes? (content : List UInt8) : Option String :=
  String.fromUTF8? ⟨content.toArray⟩

/-- Reads a truth value: itself, a text or bytes that spell it, one or zero. -/
def readTruth : Value → Except Issue.Reason Bool
  | .bool b => .ok b
  | .text s => truthOfText s
  | .bytes content =>
      match textOfBytes? content with
      | some s => truthOfText s
      | none => .error .unknownTruth
  | .int n => truthOfInt n
  | .float x => truthOfFloat x
  | _ => .error .notATruth

/-- Reads a text that may be null: itself, or bytes that spell it. -/
def readText : Value → Except Issue.Reason (Option String)
  | .null => .ok none
  | .text s => .ok (some s)
  | .bytes content =>
      match textOfBytes? content with
      | some s => .ok (some s)
      | none => .error .brokenText
  | _ => .error .notAText

/-- How a key is named in the place of an issue. -/
def placeOfKey : Value → String
  | .text s => s
  | .bool b => if b then "1" else "0"
  | v => v.quoted

namespace Descriptor

/-- The field of the conversion. -/
def conversionField : String := "transfn"

/-- The field of the default. -/
def defaultField : String := "default"

/-- The field of the default's operator. -/
def operatorField : String := "default_op"

/-- The field that keeps requests away. -/
def readOnlyField : String := "read_only"

/-- The fields that a descriptor has, in order. -/
def fieldNames : List String := [conversionField, defaultField, operatorField, readOnlyField]

/-- Is the key the name of a descriptor's field? -/
def isFieldName (key : Value) : Bool := fieldNames.any fun name => .text name == key

/-- A field's value read, if the field is given. -/
def readField {α : Type} (name : String) (absent : α) (read : Value → Except Issue.Reason α)
    (fields : Mapping Value) : Except Issue α :=
  match Mapping.find? name fields with
  | none => .ok absent
  | some v =>
      match read v with
      | .ok a => .ok a
      | .error reason => .error ⟨[name], reason⟩

/-- The issue of a key that is no text. -/
def keyIssue? : Value → Option Issue
  | .text _ => none
  | key => some ⟨[placeOfKey key], .badKey⟩

/-- A descriptor from the fields that are given. What is wrong with the known fields comes first,
then what is wrong with other keys. -/
def ofFields (fields : Mapping Value) : Except Fault Descriptor :=
  let others := fields.filter fun e => !isFieldName e.1
  let badKeys := others.filterMap fun e => keyIssue? e.1
  match readField operatorField none readText fields,
      readField readOnlyField false readTruth fields, badKeys with
  | .ok defaultOperator, .ok readOnly, [] =>
      .ok { conversion := Mapping.getOrNull conversionField fields
            default := Mapping.find? defaultField fields
            defaultOperator
            readOnly
            extra := others }
  | operator, readOnly, badKeys =>
      .error (.malformed
        (Issue.among [operator] ++ Issue.among [readOnly] ++ badKeys))

/-- Named values as the entries of a mapping. -/
def entriesOfFields (fields : List (String × Value)) : Mapping Value :=
  fields.map fun field => (.text field.1, field.2)

/-- How a schema's entry is read. Of an object only the fields of a descriptor are looked at; a
plain value is an entry that says nothing. -/
def ofValue : Value → Except Fault Descriptor
  | .descriptor fields => ofFields (entriesOfFields fields)
  | .mapping entries => ofFields entries
  | .object attributes =>
      ofFields (entriesOfFields (attributes.filter fun field => fieldNames.contains field.1))
  | .null => .error (.malformed [⟨[], .notAnObject⟩])
  | .callable _ => .error (.malformed [⟨[], .notAnObject⟩])
  | _ => .ok {}

/-- The fields of a built entry, the ones that were not given with their defaults. -/
def allFields (fields : List (String × Value)) : List (String × Value) :=
  let standard : List (String × Value) :=
    [(conversionField, .null), (defaultField, .null), (operatorField, .null),
      (readOnlyField, .bool false)]
  standard.map (fun field => (field.1, (fields.lookup field.1).getD field.2)) ++
    fields.filter fun field => !fieldNames.contains field.1

/-- An entry that is built ahead of its use. The descriptor's fields that are given come first, in
the descriptor's order and in the forms that they are read in; the others follow. -/
def build (fields : List (String × Value)) : Except Fault Value := do
  let d ← ofFields (entriesOfFields fields)
  let known : List (String × Value) :=
    [(conversionField, d.conversion), (defaultField, d.default.getD .null),
      (operatorField, Value.ofOption .text d.defaultOperator), (readOnlyField, .bool d.readOnly)]
  let given := known.filter fun field => (fields.lookup field.1).isSome
  let others := fields.filter fun field => !fieldNames.contains field.1
  return .descriptor (given ++ others)

/-- The conversion that the entry asks for, if what it names is one. -/
def coercion? (d : Descriptor) : Option Coercion :=
  match d.conversion with
  | .callable coercion => some coercion
  | _ => none

end Descriptor

end QueryFilter
