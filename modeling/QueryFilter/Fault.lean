import QueryFilter.Value.Printer

/-!
# QueryFilter.Fault

What stops a computation. Everything that a request can do wrong is a diagnostic, not a fault;
a fault is a value that cannot be used as it is asked for, or a failure of a function that the
caller supplied.

* `Issue`: one thing wrong with a value that should have had a certain form, and where.
* `Subject`: what a fault is about.
* `Fault`: the causes.
* `Fault.message`: their texts.
-/

namespace QueryFilter

/-- What is wrong with a part of a value. -/
inductive Issue.Reason where
  /-- neither a mapping nor an object with attributes -/
  | notAnObject
  | notAText
  /-- bytes that are no text -/
  | brokenText
  /-- of a type that spells truth values, but none of their spellings -/
  | unknownTruth
  | notATruth
  | notAMapping
  | notAList
  /-- a field's name that is no text -/
  | badKey
  deriving DecidableEq, Repr

/-- The word that a message uses for a reason. -/
def Issue.Reason.code : Issue.Reason → String
  | .notAnObject => "model_attributes_type"
  | .notAText => "string_type"
  | .brokenText => "string_unicode"
  | .unknownTruth => "bool_parsing"
  | .notATruth => "bool_type"
  | .notAMapping => "dict_type"
  | .notAList => "list_type"
  | .badKey => "invalid_key"

/-- One thing wrong with a value: the way to the part, and the reason. -/
structure Issue where
  path : List String
  reason : Issue.Reason
  deriving DecidableEq, Repr

/-- The part's place and the reason's word. -/
def Issue.message (issue : Issue) : String :=
  ".".intercalate issue.path ++ ": " ++ issue.reason.code

/-- The issues among several readings, in order. -/
def Issue.among {α : Type} (readings : List (Except Issue α)) : List Issue :=
  readings.filterMap fun reading =>
    match reading with
    | .ok _ => none
    | .error issue => some issue

/-- What a fault is about: a value of a type, or a type that is itself the value. -/
inductive Subject where
  | valueOf (typeWord : String)
  | type (name : String)
  deriving DecidableEq, Repr

/-- What a fault about the value is about. -/
def Value.subject : Value → Subject
  | .callable (.ofType name) => .type name
  | v => .valueOf v.typeWord

/-- What stops a computation. -/
inductive Fault where
  /-- an integer spelled with more digits than are read -/
  | tooManyDigits (count : Nat)
  /-- a value of a type that no key can have -/
  | notAKey (typeWord : String)
  /-- a value of a type that has no size -/
  | noSize (typeWord : String)
  /-- a value that holds nothing at positions -/
  | noPositions (subject : Subject)
  /-- a mapping that holds nothing at a position -/
  | emptyPosition (position : Int)
  /-- a value of a type that has no elements to go through -/
  | noElements (typeWord : String)
  /-- a value that lacks an operation -/
  | lacks (subject : Subject) (operation : String)
  /-- bytes where only a text can spell a number -/
  | bytesAsNumeral
  /-- a value that does not have the form it should have -/
  | malformed (issues : List Issue)
  /-- a pagination that is no mapping, and so has no parts -/
  | noParts (typeWord : String)
  /-- a part that should have a name, under a key that is no text -/
  | namelessPart
  /-- a request that was to be read without any diagnostic, and the texts of those it had -/
  | rejected (messages : List String)
  /-- a failure of a function of the caller's, with its kind and text -/
  | raised (kind message : String)
  deriving DecidableEq, Repr

/-- The text of a fault. -/
def Fault.message : Fault → String
  | .tooManyDigits count =>
      "Exceeds the limit (" ++ renderInt Numeral.maxIntegerDigits ++
        " digits) for integer string conversion: value has " ++ renderInt count ++
        " digits; use sys.set_int_max_str_digits() to increase the limit"
  | .notAKey typeWord => "unhashable type: '" ++ typeWord ++ "'"
  | .noSize typeWord => "object of type '" ++ typeWord ++ "' has no len()"
  | .noPositions (.valueOf typeWord) => "'" ++ typeWord ++ "' object is not subscriptable"
  | .noPositions (.type name) => "type '" ++ name ++ "' is not subscriptable"
  | .emptyPosition position => renderInt position
  | .noElements typeWord => "'" ++ typeWord ++ "' object is not iterable"
  | .lacks (.valueOf typeWord) operation =>
      "'" ++ typeWord ++ "' object has no attribute '" ++ operation ++ "'"
  | .lacks (.type name) operation =>
      "type object '" ++ name ++ "' has no attribute '" ++ operation ++ "'"
  | .bytesAsNumeral => "cannot use a string pattern on a bytes-like object"
  | .malformed issues => "; ".intercalate (issues.map Issue.message)
  | .noParts typeWord =>
      "qs_core.model.query_model.Pagination() argument after ** must be a mapping, not " ++
        typeWord
  | .namelessPart => "keywords must be strings"
  | .rejected messages => "query string rejected: " ++ "; ".intercalate messages
  | .raised _ message => message

/-- The value as a key, if its type allows it. -/
def Value.asKey (v : Value) : Except Fault Value :=
  match v.keyObstacle? with
  | none => .ok v
  | some typeWord => .error (.notAKey typeWord)

@[simp] theorem Value.asKey_text (s : String) : (Value.text s).asKey = .ok (.text s) := by
  simp [asKey, keyObstacle?]

end QueryFilter
