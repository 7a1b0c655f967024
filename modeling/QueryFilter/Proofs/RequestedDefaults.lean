import QueryFilter.Proofs.Accumulation
import QueryFilter.Proofs.Cutting
import QueryFilter.Proofs.Defaults
import Mathlib.Data.List.Basic

/-!
# QueryFilter.Proofs.RequestedDefaults

A default is written as if a request had given it. A request's value is cut, converted and combined
with what is there, and a default is taken as it is; where there is nothing to cut, to convert or to
combine with, both leave the same matrix.

* `IsItem`: the values that are neither cut nor converted.
* `Requestable`: the defaults that a request may give under an operator.
* `Accumulator.holding`: what such a default leaves for its field.
* `Requestable.readValues_eq`, `Requestable.add?_eq`: its values read and added.
* `Requestable.defaultAccumulator_eq`: its values taken as they are.
* `gather_eq_writeDefault`: the two writers agree.
-/

namespace QueryFilter

/-- A value by itself, which no pipe cuts and the standard conversion leaves as it is. -/
structure IsItem (v : Value) : Prop where
  single : v.isCollection = false
  no_pipe : ∀ s, v = .text s → '|' ∉ s.toList
  fixed : toStandard v = .ok v

/-- What a request may give under an operator: an item, or, where the operator collects, a list or a
tuple of items that is not empty. -/
inductive Requestable : Operator → Value → Prop where
  | item {op : Operator} {v : Value} : IsItem v → Requestable op v
  | items {op : ListOperator} {v : Value} {items : List Value} : v.items? = some items →
      items ≠ [] → (∀ item ∈ items, IsItem item) → Requestable (.collect op) v

/-- The items of a list or a tuple; any other value is its own item. -/
def Value.itemsOf (v : Value) : List Value := v.items?.getD [v]

/-- A field that holds a value under one operator and nothing else. -/
def Accumulator.holding (op : Operator) (v : Value) : Accumulator :=
  match op with
  | .collect op => empty.setCollected op v.itemsOf
  | .bound op => empty.setBound op v

theorem isItem_int (n : Int) : IsItem (.int n) := ⟨rfl, nofun, rfl⟩

/-! ## Items -/

namespace IsItem

variable {v : Value}

theorem items?_eq (h : IsItem v) : v.items? = none := by
  have hsingle := h.single
  cases v <;> first | rfl | exact nomatch hsingle

/-- A text that the standard conversion leaves as it is has no blanks around it. -/
theorem strip_eq {s : String} (h : IsItem (.text s)) : Text.strip s = s := by
  have hfixed := h.fixed
  unfold toStandard at hfixed
  obtain ⟨n?, -, hn⟩ := Except.bind_eq_ok hfixed
  cases n? with
  | none => exact Value.text.inj (Except.ok.inj hn)
  | some n => cases n <;> exact nomatch hn

theorem pipePieces_eq {s : String} (h : IsItem (.text s)) : pipePieces s = [s.toList] :=
  Text.splitAt_of_not_mem (h.no_pipe s rfl)

theorem elementPieces_eq (h : IsItem v) : elementPieces v = [v] := by
  cases v with
  | text s => simp [elementPieces, h.pipePieces_eq]
  | _ => rfl

theorem rawPieces_eq (h : IsItem v) (op : Operator) : rawPieces op v = [v] := by
  have hitems := h.items?_eq
  cases v with
  | text s =>
      have htrim : String.ofList (Text.trim s.toList) = s := h.strip_eq
      simp [rawPieces, h.pipePieces_eq, h.strip_eq, htrim]
  | list items => exact nomatch hitems
  | tuple items => exact nomatch hitems
  | _ => rfl

theorem convert_eq (h : IsItem v) (conversions : Conversions) :
    Coercion.standard.applyTo conversions v = .ok v := by
  cases v with
  | null => rfl
  | _ => exact h.fixed

end IsItem

/-! ## Requests -/

namespace Requestable

variable {op : Operator} {v : Value}

theorem itemsOf_ne_nil (h : Requestable op v) : v.itemsOf ≠ [] := by
  cases h with
  | item h => simp [Value.itemsOf, h.items?_eq]
  | items hitems hne => simpa [Value.itemsOf, hitems] using hne

theorem isItem_of_mem (h : Requestable op v) : ∀ item ∈ v.itemsOf, IsItem item := by
  cases h with
  | item h => simpa [Value.itemsOf, h.items?_eq] using h
  | items hitems _ h => simpa [Value.itemsOf, hitems] using h

/-- Nothing is cut. -/
theorem rawPieces_eq (h : Requestable op v) : rawPieces op v = v.itemsOf := by
  cases h with
  | item h => simp [Value.itemsOf, h.rawPieces_eq, h.items?_eq]
  | @items op v items hitems _ h =>
      have hflat : items.flatMap elementPieces = items := by
        rw [List.flatMap_congr fun item hitem => (h item hitem).elementPieces_eq]
        simp
      cases v <;> simp_all [Value.itemsOf, Value.items?, rawPieces]

/-- Nothing is converted. -/
theorem readValues_eq (h : Requestable op v) (conversions : Conversions) :
    readValues conversions .standard op v = .ok v.itemsOf := by
  unfold readValues
  rw [h.rawPieces_eq,
    Except.mapM_of_forall fun item hitem => (h.isItem_of_mem item hitem).convert_eq conversions,
    List.map_id']

/-- There is nothing to combine with. -/
theorem add?_eq (h : Requestable op v) :
    Accumulator.empty.add? op v.itemsOf = some (.holding op v) := by
  cases op with
  | collect op => cases op <;> rfl
  | bound op =>
      cases h with
      | item h =>
          rw [Value.itemsOf, h.items?_eq]
          cases op <;> rfl

end Requestable

/-! ## Defaults -/

namespace Requestable

variable {op : Operator} {v name : Value} {d : Descriptor}

theorem boundDefault_eq {op : BoundOperator} (h : Requestable (.bound op) v) (name : Value) :
    Descriptor.boundDefault name v = (v, []) := by
  cases h with
  | item h => simp [Descriptor.boundDefault, h.items?_eq]

theorem collectedDefault_eq {op : ListOperator} (h : Requestable (.collect op) v) (name : Value) :
    Descriptor.collectedDefault name op v = .ok v.itemsOf := by
  cases h with
  | item h =>
      have hsingle := h.single
      simp only [Descriptor.collectedDefault, Value.itemsOf, h.items?_eq]
      cases v <;> first | rfl | exact nomatch hsingle
  | items hitems _ h =>
      have hsingle : ∀ item ∈ v.itemsOf, item.isCollection = false := fun item hitem => by
        rw [Value.itemsOf, hitems] at hitem
        exact (h item hitem).single
      simp_all [Descriptor.collectedDefault, Value.itemsOf]

/-- The default is taken as it is, without a report. -/
theorem defaultAccumulator_eq (h : Requestable op v)
    (hreserved : FieldName.isReserved name = true → op = .eq) (hdefault : d.default = some v)
    (hop : d.operatorName = op.name) :
    d.defaultAccumulator name = .ok (.holding op v, []) := by
  have hallowed : (FieldName.isReserved name && d.operatorName != Operator.eq.name) = false := by
    cases hname : FieldName.isReserved name with
    | false => rfl
    | true => simp [hop, hreserved hname]
  unfold Descriptor.defaultAccumulator
  rw [hallowed, hop, Operator.ofName?_name, hdefault, Option.getD_some]
  cases op with
  | bound op => simp [h.boundDefault_eq, Accumulator.holding]
  | collect op => simp [h.collectedDefault_eq, Accumulator.holding]

end Requestable

/-- **Defaults as requested.** A default that a request may give is gathered from the request, and
written as a default, with the same outcome: the field is added at the end of the matrix, with the
value under the operator and nothing else, and nothing is reported. -/
theorem gather_eq_writeDefault (conversions : Conversions) {d : Descriptor} {name v : Value}
    {op : Operator} {m : Matrix} (hkey : name.asKey = .ok name)
    (hreserved : FieldName.isReserved name = true → op = .eq)
    (hmissing : Mapping.hasKey name m = false) (hconversion : d.coercion? = none)
    (hdefault : d.default = some v) (hop : d.operatorName = op.name) (h : Requestable op v) :
    m.gather conversions d name v op = .ok ⟨m ++ [(name, .holding op v)], true, []⟩ ∧
      m.writeDefault name d = ⟨m ++ [(name, .holding op v)], true, []⟩ := by
  constructor
  · have hread : readValues conversions (d.coercion?.getD .standard) op v = .ok v.itemsOf := by
      rw [hconversion]
      exact h.readValues_eq conversions
    rw [Matrix.gather_of_readValues hread, if_neg h.itemsOf_ne_nil, hkey]
    show Except.ok (m.add name op v.itemsOf) = _
    simp only [Matrix.add, Matrix.field_of_not_hasKey hmissing, h.add?_eq,
      Mapping.put_of_not_hasKey hmissing]
  · unfold Matrix.writeDefault
    rw [h.defaultAccumulator_eq hreserved hdefault hop]
    dsimp only
    rw [Mapping.put_of_not_hasKey hmissing]

/-- Two values, one of each kind. -/
def colors : Value := .list [.text "red", .int 7]

/-- An entry with these values as its default under inequality, and a conversion that is none. -/
def colorEntry : Descriptor where
  conversion := .text "upper"
  default := some colors
  defaultOperator := some "ne"

/-- A matrix that holds another field. -/
def sizeMatrix : Matrix := [(.text "size", { gte := .int 3 })]

theorem requestable_colors : Requestable .ne colors := by
  refine .items rfl (List.cons_ne_nil _ _) ?_
  simp only [List.forall_mem_cons]
  exact ⟨⟨rfl, by rintro _ ⟨⟩; decide, rfl⟩, isItem_int 7, List.forall_mem_nil _⟩

theorem gather_eq_writeDefault_colors :
    (Value.text "color").asKey = .ok (.text "color") ∧
    FieldName.isReserved (.text "color") = false ∧
    Mapping.hasKey (.text "color") sizeMatrix = false ∧
    colorEntry.coercion? = none ∧ colorEntry.operatorName = Operator.ne.name ∧
    Requestable .ne colors ∧
    sizeMatrix.gather (fun _ v => .ok v) colorEntry (.text "color") colors .ne =
      .ok ⟨sizeMatrix ++ [(.text "color", .holding .ne colors)], true, []⟩ ∧
    sizeMatrix.writeDefault (.text "color") colorEntry =
      ⟨sizeMatrix ++ [(.text "color", .holding .ne colors)], true, []⟩ := by
  have hreserved : FieldName.isReserved (.text "color") = false := by rfl
  have hmissing : Mapping.hasKey (.text "color") sizeMatrix = false := by rfl
  exact ⟨rfl, hreserved, hmissing, rfl, rfl, requestable_colors,
    gather_eq_writeDefault _ rfl (by simp [hreserved]) hmissing rfl rfl rfl requestable_colors⟩

end QueryFilter
