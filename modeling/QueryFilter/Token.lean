import QueryFilter.Operator
import QueryFilter.Text.Blank
import QueryFilter.Text.Split

/-!
# QueryFilter.Token

One pair of a query string, read as a field name, an operator and a raw value.

An operator is spelled in two ways. Where the pair has a value, the key's last character may mark
the operator. Where it has none, the key may hold the name and the value with a mark between them.

* `Token`: the reading.
* `Token.read`: how a pair is read.
* `suffixOperator?`: the marks at the end of a key.
-/

namespace QueryFilter

/-- A pair of a query string, read. -/
structure Token where
  name : String
  value : Value
  operator : Operator

/-- The operator that a key's last character marks, where the pair has a value. -/
def suffixOperator? : Char → Option Operator
  | '!' => some .ne
  | '<' => some .lte
  | '>' => some .gte
  | '$' => some .regex
  | _ => none

/-- The two texts that stand for null. -/
def isNullText (s : String) : Bool := s == "null" || s == "NULL"

/-- A raw value with the texts for null read. -/
def readNull : Value → Value
  | .text s => if isNullText s then .null else .text s
  | v => v

namespace Token

/-- The operator whose mark a key without a value holds, and the pieces between the occurrences of
that mark. The mark of two characters is looked for first, for each of them is a mark as well. -/
def pieces (key : List Char) : Operator × List (List Char) :=
  match Text.splitAtPair '<' '>' key with
  | [_] =>
      match Text.splitAt '>' key with
      | [_] =>
          match Text.splitAt '<' key with
          | [_] => (.eq, [key])
          | cut => (.lt, cut)
      | cut => (.gt, cut)
  | cut => (.bt, cut)

/-- A key without a value. A mark that occurs once has the name before it and the value after it;
otherwise the whole key is the name, and a mark still says the operator. -/
def ofKey (key : String) (value : Value) : Token :=
  match pieces key.toList with
  | (op, [name, rest]) => ⟨String.ofList name, .text (String.ofList (Text.trim rest)), op⟩
  | (op, _) => ⟨key, value, op⟩

/-- A key with a value, whose last character may mark an operator. -/
def ofPair (key : String) (value : Value) : Token :=
  let cs := key.toList
  match cs.getLast?.bind suffixOperator? with
  | some op => ⟨String.ofList cs.dropLast, value, op⟩
  | none => ⟨key, value, .eq⟩

/-- How a pair is read. -/
def read (key : String) (value : Value) : Token :=
  let token := if value.isTruthy then ofPair key value else ofKey key value
  { token with value := readNull token.value }

end Token

end QueryFilter
