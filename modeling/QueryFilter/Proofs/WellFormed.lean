import QueryFilter.Proofs.Compiling
import QueryFilter.Proofs.Settling

/-!
# QueryFilter.Proofs.WellFormed

The form that every filter has, wherever its values come from: requests, defaults, and conversions
of the caller's, which may return anything.

* `WellFormed`: the form of one field's slots.
* `Accumulator.wellFormed_settle`: what settling leaves of a field has that form, if anything is left.
* `filter_wellFormed`: every entry of every filter has it.
-/

namespace QueryFilter

/-- The slots of a field as a filter may hold them: operators with their values. -/
structure WellFormed (slots : Mapping Value) : Prop where
  ne_nil : slots ≠ []
  /-- the keys are names of operators, each once and in the order of the operators -/
  in_order : ∃ ops : List Operator, ops.Sublist Operator.all ∧
    Mapping.keys slots = ops.map fun op => .text op.name
  /-- an operator that collects has a list, and not an empty one -/
  lists : ∀ (op : ListOperator) (v : Value),
    Mapping.find? (Operator.collect op).name slots = some v → ∃ values, v = .list values ∧ values ≠ []
  /-- an operator that keeps a bound has one -/
  bounds : ∀ (op : BoundOperator) (v : Value),
    Mapping.find? (Operator.bound op).name slots = some v → v ≠ .null
  /-- under equality and inequality no value is the same as an earlier one -/
  once : ∀ op : ListOperator, op = .eq ∨ op = .ne → ∀ values,
    Mapping.find? (Operator.collect op).name slots = some (.list values) →
      values.Pairwise fun earlier later => (later == earlier) = false
  /-- no strict lower bound stands beside another one that asks for no less -/
  lower : ∀ strict loose, Mapping.find? Operator.gt.name slots = some strict →
    Mapping.find? Operator.gte.name slots = some loose → strict.notAbove loose = false
  /-- no strict upper bound stands beside another one that asks for no more -/
  upper : ∀ loose strict, Mapping.find? Operator.lte.name slots = some loose →
    Mapping.find? Operator.lt.name slots = some strict → loose.notAbove strict = false

namespace Accumulator

/-- What settling leaves of a field is well-formed, if anything is left. -/
theorem wellFormed_settle {name : Value} {a : Accumulator} (h : (a.settle name).1.criteria ≠ []) :
    WellFormed (a.settle name).1.criteria where
  ne_nil := h
  in_order := ⟨_, List.filter_sublist, keys_criteria _⟩
  lists := by
    intro op v hv
    rw [find?_criteria] at hv
    obtain ⟨values, -, hne, rfl⟩ := held?_collect_eq_some hv
    exact ⟨values, rfl, hne⟩
  bounds := by
    intro op v hv
    rw [find?_criteria] at hv
    exact (held?_bound_eq_some hv).2
  once := by
    intro op hop values hv
    rw [find?_criteria] at hv
    obtain ⟨values', hcollected, -, heq⟩ := held?_collect_eq_some hv
    obtain rfl := Value.list.inj heq
    rw [collected_settle] at hcollected
    rcases hop with rfl | rfl
    · obtain ⟨given, -, rfl⟩ := Option.map_eq_some_iff.mp hcollected
      exact Value.pairwise_distinct given
    · obtain ⟨given, -, rfl⟩ := Option.map_eq_some_iff.mp hcollected
      exact Value.pairwise_distinct given
  lower := by
    intro strict loose hstrict hloose
    rw [find?_criteria] at hstrict hloose
    have hconflict := lowerConflict_settle name a
    rw [lowerConflict, has, hstrict, has, hloose] at hconflict
    rw [← (held?_bound_eq_some hstrict).1, ← (held?_bound_eq_some hloose).1]
    exact hconflict
  upper := by
    intro loose strict hloose hstrict
    rw [find?_criteria] at hloose hstrict
    have hconflict := upperConflict_settle name a
    rw [upperConflict, has, hloose, has, hstrict] at hconflict
    rw [← (held?_bound_eq_some hloose).1, ← (held?_bound_eq_some hstrict).1]
    exact hconflict

end Accumulator

/-- **Filters are well-formed.** Every entry of the filter of a result has a name to filter on, and
well-formed slots. -/
theorem filter_wellFormed {s : Schema} {cfg : Config}
    (hcfg : Mapping.find? FieldName.query cfg = none) {fallback : Value} {request : Request}
    {result : Mapping Value} (h : (compile s fallback request cfg).result = .ok result) :
    ∃ filter, Filters result filter ∧ ∀ entry ∈ filter,
      FieldName.isReserved entry.1 = false ∧
        ∃ slots, entry.2 = .mapping slots ∧ WellFormed slots := by
  obtain ⟨cs, filled, settled, pagination, -, -, hsettle, rfl⟩ := compile_inv h
  refine ⟨_, filters_assemble hcfg pagination, fun entry hentry => ?_⟩
  obtain ⟨hreserved, a, -, hshown⟩ := Matrix.mem_filterOf_settle hsettle hentry
  refine ⟨hreserved, (a.settle entry.1).1.criteria, ?_⟩
  unfold Accumulator.shown? Accumulator.criteria? at hshown
  split at hshown
  next => exact nomatch hshown
  next hne =>
    rw [List.isEmpty_iff] at hne
    exact ⟨(Option.some.inj hshown).symm, Accumulator.wellFormed_settle hne⟩

/-- A schema with a conversion to lists, and with defaults that hold too much. -/
def partSchema : Schema where
  template := some
    [(.text "code", .mapping [(.text "transfn", .callable (.supplied "twice"))]),
      (.text "size", .mapping
        [(.text "default", .list [.int 5, .int 3]), (.text "default_op", .text "gt")]),
      (.text "kind", .mapping [(.text "default", .tuple [.int 1, .bool true, .text "a"])])]
  conversions _ v := .ok (.list [v, v])

/-- A code that is repeated, and two lower bounds of which one is enough. -/
def partRequest : Request :=
  [("code", .list [.text "a", .text "b|a"]), ("code>2", .text ""), ("code>", .text "3"),
    ("other", .text "1")]

def partResult : Mapping Value :=
  [(.text "query", .mapping
      [(.text "code", .mapping
          [(.text "eq", .list [.list [.text "a", .text "a"], .list [.text "b", .text "b"]]),
            (.text "gte", .list [.text "3", .text "3"])]),
        (.text "size", .mapping [(.text "gt", .int 5)]),
        (.text "kind", .mapping [(.text "eq", .list [.int 1, .text "a"])])])]

theorem part_wellFormed :
    (compile partSchema (.int 1) partRequest []).result = .ok partResult ∧
    ∃ filter, Filters partResult filter ∧ ∀ entry ∈ filter,
      FieldName.isReserved entry.1 = false ∧
        ∃ slots, entry.2 = .mapping slots ∧ WellFormed slots := by
  have hresult : (compile partSchema (.int 1) partRequest []).result = .ok partResult := by
    have hread : (partSchema.contributions [] partRequest).result =
        .ok [⟨.text "code", .eq, [.list [.text "a", .text "a"], .list [.text "b", .text "b"],
            .list [.text "a", .text "a"]]⟩,
          ⟨.text "code", .gt, [.list [.text "2", .text "2"]]⟩,
          ⟨.text "code", .gte, [.list [.text "3", .text "3"]]⟩] := by rfl
    rw [compile_result, hread]
    rfl
  exact ⟨hresult, filter_wellFormed rfl hresult⟩

end QueryFilter
