import QueryFilter.Elements
import QueryFilter.Schema

/-!
# QueryFilter.Sort

A sort is a list of fields, each with a direction. It is written as tokens: a field, and after it
the number one for ascending or minus one for descending, which may be left out.

* `Direction`, `SortToken`: a token's reading.
* `readSort`: the fields of a list of tokens, each followed by its direction.
* `sortMapping`, `sortOf`: the mapping from fields to directions, of a list and of any value.
-/

namespace QueryFilter

/-- The two directions of a sort. -/
inductive Direction where
  | ascending
  | descending
  deriving DecidableEq, Repr

/-- A direction as it is written. -/
def Direction.toValue : Direction → Value
  | .ascending => .int 1
  | .descending => .int (-1)

/-- What a token of a sort may be. -/
inductive SortToken where
  | direction (d : Direction)
  /-- null, blank, or a number that is no direction -/
  | stray
  | field
  deriving DecidableEq, Repr

namespace SortToken

/-- The number that a token is or spells; a truth value is none. -/
def number? : Value → Except Fault (Option Number)
  | .int n => .ok (some (.int n))
  | .float x => .ok (some (.float x))
  | .text s => readNumber s
  | _ => .ok none

/-- Is the token null or a text of nothing but blanks? -/
def isBlank : Value → Bool
  | .null => true
  | .text s => s.toList.all Text.isBlank
  | _ => false

/-- A number read as a direction, if it is worth one or minus one. -/
def ofNumber (n : Number) : SortToken :=
  if n.compare (.int 1) = .same then .direction .ascending
  else if n.compare (.int (-1)) = .same then .direction .descending
  else .stray

/-- What a token is. -/
def read (v : Value) : Except Fault SortToken := do
  match ← number? v with
  | some n => return ofNumber n
  | none => return if isBlank v then .stray else .field

end SortToken

/-- The field that a token names, if the schema allows to sort by it; where the schema does not say,
the token itself. -/
def Schema.sortField? (s : Schema) (cfg : Config) (token : Value) :
    Except Fault (Option Value) := do
  if s.checksSort then
    let name ← s.normalize token cfg
    return if ← s.isSortable name cfg then some name else none
  else
    return some token

/-- The direction of a field that is followed by none. -/
def impliedDirection (expecting : Bool) : List Value :=
  if expecting then [Direction.ascending.toValue] else []

/-- The fields of a list of tokens, each followed by its direction. `expecting` says that the last
field has none yet. -/
def readSort (s : Schema) (cfg : Config) : Bool → List Value → Logged (List Value)
  | expecting, [] => pure (impliedDirection expecting)
  | expecting, token :: rest => do
      let read ← SortToken.read token
      match read with
      | .direction d =>
          if expecting then
            let more ← readSort s cfg false rest
            return d.toValue :: more
          else
            Logged.note (.unexpectedSortToken token)
            readSort s cfg expecting rest
      | .stray =>
          Logged.note (.unexpectedSortToken token)
          readSort s cfg expecting rest
      | .field =>
          match ← s.sortField? cfg token with
          | some name =>
              let more ← readSort s cfg true rest
              return impliedDirection expecting ++ name :: more
          | none =>
              Logged.note (.sortFieldNotAllowed token)
              let more ← readSort s cfg false rest
              return impliedDirection expecting ++ more

/-- Sets fields and directions, which alternate, one after the other. A field at the end has null
for its direction. -/
def putSort (m : Mapping Value) : List Value → Except Fault (Mapping Value)
  | [] => .ok m
  | [field] => do
      let key ← field.asKey
      return Mapping.put key .null m
  | field :: direction :: rest => do
      let key ← field.asKey
      putSort (Mapping.put key direction m) rest

/-- The mapping of a list in which fields and directions alternate. -/
def sortMapping (values : List Value) : Except Fault (Mapping Value) := putSort [] values

/-- Sets the field at an even position to the direction that follows it, null at the end. -/
def putPair (v : Value) (size : Nat) (m : Mapping Value) (pair : Nat) :
    Except Fault (Mapping Value) := do
  let direction ← if 2 * pair + 1 < size then v.getAt (2 * pair + 1) else pure .null
  let field ← v.getAt (2 * pair)
  let key ← field.asKey
  return Mapping.put key direction m

/-- The mapping of a value in which fields and directions alternate by position. -/
def sortOf (v : Value) : Except Fault (Mapping Value) := do
  match v.sequence? with
  | some values => sortMapping values
  | none =>
      let size ← v.size
      (List.range ((size + 1) / 2)).foldlM (putPair v size) []

end QueryFilter
