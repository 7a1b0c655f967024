import QueryFilter.Number.Numeral

/-!
# QueryFilter.Value.Basic

The values that a query string, a schema and a configuration hold. They come from callers, so
their types are known only when they are looked at.

* `Coercion`: a conversion of values, one of the library's own or one that the caller supplies.
* `Value`: the values.
* `Value.isTruthy`: which values count as given.
* `Value.number?`: the number that a value is worth; the booleans are worth one and zero.
-/

namespace QueryFilter

/-- A conversion of values. -/
inductive Coercion where
  /-- texts that spell numbers become numbers, other texts null -/
  | numeric
  /-- texts that spell numbers become numbers, other texts are trimmed -/
  | standard
  /-- a function of the caller's, known by its name -/
  | supplied (name : String)
  /-- a type, which converts a value by making one of its own from it -/
  | ofType (name : String)
  deriving DecidableEq, Repr

/-- A value. A mapping keeps the order in which its keys were first set. -/
inductive Value where
  | null
  | bool (b : Bool)
  | int (n : Int)
  | float (x : Binary64)
  | text (s : String)
  | bytes (content : List UInt8)
  | list (items : List Value)
  | tuple (items : List Value)
  | set (items : List Value)
  | mapping (entries : List (Value × Value))
  /-- an object of the caller's, with named attributes -/
  | object (attributes : List (String × Value))
  | callable (coercion : Coercion)
  /-- a schema entry that is built already, with the fields that were given -/
  | descriptor (fields : List (String × Value))

namespace Value

/-- The value of a number. -/
def ofNumber : Number → Value
  | .int n => .int n
  | .float x => .float x

/-- The value of something that may be missing; null if it is. -/
def ofOption {α : Type} (toValue : α → Value) : Option α → Value
  | some a => toValue a
  | none => .null

/-- The number that a value is worth. -/
def number? : Value → Option Number
  | .bool b => some (.int (if b then 1 else 0))
  | .int n => some (.int n)
  | .float x => some (.float x)
  | _ => none

/-- Null, false, zero and what is empty count as not given; anything else counts as given. -/
def isTruthy : Value → Bool
  | .null => false
  | .bool b => b
  | .int n => n != 0
  | .float x => !x.isZero
  | .text s => s != ""
  | .bytes content => !content.isEmpty
  | .list items => !items.isEmpty
  | .tuple items => !items.isEmpty
  | .set items => !items.isEmpty
  | .mapping entries => !entries.isEmpty
  | .object _ => true
  | .callable _ => true
  | .descriptor _ => true

/-- Is this null? -/
def isNull : Value → Bool
  | .null => true
  | _ => false

/-- Is this a mapping? -/
def isMapping : Value → Bool
  | .mapping _ => true
  | _ => false

/-- The entries of a mapping. -/
def entries? : Value → Option (List (Value × Value))
  | .mapping entries => some entries
  | _ => none

/-- The elements of a list or a tuple. -/
def items? : Value → Option (List Value)
  | .list items => some items
  | .tuple items => some items
  | _ => none

/-- What a sequence holds: the elements of a list or a tuple, the characters of a text, and the
bytes of a byte string as integers. -/
def sequence? : Value → Option (List Value)
  | .text s => some (s.toList.map fun c => .text (String.singleton c))
  | .bytes content => some (content.map fun b => .int b.toNat)
  | v => v.items?

/-- The word that messages use for a value's type. -/
def typeWord : Value → String
  | .null => "NoneType"
  | .bool _ => "bool"
  | .int _ => "int"
  | .float _ => "float"
  | .text _ => "str"
  | .bytes _ => "bytes"
  | .list _ => "list"
  | .tuple _ => "tuple"
  | .set _ => "set"
  | .mapping _ => "dict"
  | .object _ => "types.SimpleNamespace"
  | .callable (.ofType _) => "type"
  | .callable _ => "function"
  | .descriptor _ => "VariableDescriptor"

/-- How many elements a value holds, if it is of a type that holds some. -/
def size? : Value → Option Nat
  | .text s => some s.length
  | .bytes content => some content.length
  | .list items => some items.length
  | .tuple items => some items.length
  | .set items => some items.length
  | .mapping entries => some entries.length
  | _ => none

mutual

/-- The type word of the first part of a value that keeps it from being a key: whatever can change
cannot be one, and a tuple is as fixed as its elements. -/
def keyObstacle? : Value → Option String
  | .list _ => some "list"
  | .set _ => some "set"
  | .mapping _ => some "dict"
  | .object attributes => some (typeWord (.object attributes))
  | .descriptor fields => some (typeWord (.descriptor fields))
  | .tuple items => keyObstacleIn? items
  | _ => none
termination_by structural v => v

/-- The first obstacle among several values. -/
def keyObstacleIn? : List Value → Option String
  | [] => none
  | v :: rest => (keyObstacle? v).or (keyObstacleIn? rest)
termination_by structural v => v

end

mutual

/-- A value with every built schema entry in it replaced by the mapping of its fields. -/
def plain : Value → Value
  | .list items => .list (plainItems items)
  | .tuple items => .tuple (plainItems items)
  | .mapping entries => .mapping (plainEntries entries)
  | .descriptor fields => .mapping (plainFields fields)
  | v => v
termination_by structural v => v

/-- The elements, each made plain. -/
def plainItems : List Value → List Value
  | [] => []
  | v :: rest => plain v :: plainItems rest
termination_by structural v => v

/-- The entries, each value made plain. -/
def plainEntries : List (Value × Value) → List (Value × Value)
  | [] => []
  | (k, v) :: rest => (k, plain v) :: plainEntries rest
termination_by structural v => v

/-- The fields as entries, each value made plain. -/
def plainFields : List (String × Value) → List (Value × Value)
  | [] => []
  | (name, v) :: rest => (.text name, plain v) :: plainFields rest
termination_by structural v => v

end

end Value

end QueryFilter
