import QueryFilter.Value.Equality

/-!
# QueryFilter.Value.Order

Which of two values is the greater one. Only values of related types have an order: numbers among
themselves, texts by code point, byte strings by byte, lists and tuples by their first elements that
differ, and sets by inclusion.

* `Value.compare?`: how two values lie to each other, or nothing if their types are unrelated.
* `Value.greatest?`, `Value.least?`: the first greatest and the first least of several values.
-/

namespace QueryFilter

/-- Two lists compared by their first elements that differ; a list that ends earlier is less. -/
def Comparison.ofKeys : List Nat → List Nat → Comparison
  | [], [] => .same
  | [], _ :: _ => .less
  | _ :: _, [] => .greater
  | m :: ms, n :: ns =>
      if m < n then .less else if n < m then .greater else Comparison.ofKeys ms ns

namespace Value

/-- Sets compared by inclusion. -/
def compareSets (xs ys : List Value) : Comparison :=
  match allAmong xs ys, allAmong ys xs with
  | true, true => .same
  | true, false => .less
  | false, true => .greater
  | false, false => .unordered

mutual

/-- How two values lie to each other; nothing, if their types have no common order. -/
def compare? : Value → Value → Option Comparison
  | .text s, .text t => some (.ofKeys (s.toList.map Char.toNat) (t.toList.map Char.toNat))
  | .bytes a, .bytes b => some (.ofKeys (a.map UInt8.toNat) (b.map UInt8.toNat))
  | .list xs, .list ys => compareItems? xs ys
  | .tuple xs, .tuple ys => compareItems? xs ys
  | .set xs, .set ys => some (compareSets xs ys)
  | a, b =>
      match a.number?, b.number? with
      | some m, some n => some (m.compare n)
      | _, _ => none
termination_by structural v => v

/-- Lists compared by their first elements that differ. -/
def compareItems? : List Value → List Value → Option Comparison
  | [], [] => some .same
  | [], _ :: _ => some .less
  | _ :: _, [] => some .greater
  | x :: xs, y :: ys => if same x y then compareItems? xs ys else compare? x y
termination_by structural v => v

end

/-- Is the first value at most the second? Never, if they have no common order. -/
def notAbove (lower upper : Value) : Bool :=
  match compare? lower upper with
  | some .less => true
  | some .same => true
  | _ => false

/-- One step in the search for an extreme value: the new value replaces the kept one when it lies
in the wanted direction from it. -/
def replaceIf? (wanted : Comparison) (kept new : Value) : Option Value :=
  (compare? new kept).map fun c => if c = wanted then new else kept

/-- The extreme one of several values, the first of equal ones; nothing, if two that are compared
have no common order. -/
def extreme? (wanted : Comparison) (first : Value) (rest : List Value) : Option Value :=
  rest.foldlM (replaceIf? wanted) first

end Value

end QueryFilter
