import QueryFilter.Descriptor

/-!
# QueryFilter.Elements

Looking into a value whose type is not known. What is asked for may not be there, or the type may
not have such a thing at all; both are faults.

* `Value.elements`: the elements, one after the other.
* `Value.getAt`: what stands at a position.
* `Value.entries`: the entries of a mapping.
-/

namespace QueryFilter

namespace Value

/-- How many elements a value holds. -/
def size (v : Value) : Except Fault Nat :=
  match v.size? with
  | some n => .ok n
  | none => .error (.noSize v.typeWord)

/-- The elements of a value, one after the other. Those of a mapping are its keys, those of a built
schema entry its fields as pairs. -/
def elements (v : Value) : Except Fault (List Value) :=
  match v with
  | .set items => .ok items
  | .mapping entries => .ok (Mapping.keys entries)
  | .descriptor fields =>
      .ok ((Descriptor.allFields fields).map fun field => .tuple [.text field.1, field.2])
  | v =>
      match v.sequence? with
      | some items => .ok items
      | none => .error (.noElements v.typeWord)

/-- What stands at a position of a sequence; a negative position counts from the end. -/
def nth? (items : List Value) (position : Int) : Option Value :=
  if position < 0 then items.reverse[(-position - 1).toNat]? else items[position.toNat]?

/-- What stands at a position of a value. A mapping holds it under the position as a key. -/
def getAt (v : Value) (position : Int) : Except Fault Value :=
  match v with
  | .mapping entries => found (Mapping.lookup? (.int position) entries)
  | v =>
      match v.sequence? with
      | some items => found (nth? items position)
      | none => .error (.noPositions v.subject)
where
  /-- What was found, if something was. -/
  found : Option Value → Except Fault Value
    | some w => .ok w
    | none => .error (.emptyPosition position)

/-- The entries of a mapping. -/
def entries (v : Value) : Except Fault (Mapping Value) :=
  match v with
  | .mapping entries => .ok entries
  | v => .error (.lacks v.subject "items")

@[simp] theorem nth?_neg_one (items : List Value) : nth? items (-1) = items.getLast? := by
  simp [nth?, List.getLast?_eq_head?_reverse, List.head?_eq_getElem?]

/-- The last element of a list that is not empty. -/
theorem getAt_neg_one_list {items : List Value} {v : Value} (h : items.getLast? = some v) :
    (Value.list items).getAt (-1) = .ok v := by
  simp [getAt, sequence?, items?, h, getAt.found]

end Value

end QueryFilter
