import QueryFilter.Proofs.Compiling

/-!
# QueryFilter.Proofs.Whitelist

A schema is a whitelist. Whatever a request asks for, its filter is about fields that the schema lets
requests filter on, and about fields of the template that got their default because the request left
them out.

* `Schema.check_inv`: why the schema accepts a field.
* `Schema.Allows`, `Schema.Declares`: what the schema says about a field of the filter.
* `keys_filter_whitelisted`: every field of the filter is one that the request names and the schema
  allows, or one that the request left out and the template declares a default for.
-/

namespace QueryFilter

/-! ## Accepted fields -/

/-- Why the schema accepts a field under an operator: it accepts every field, or it has an entry that
allows the field, or the field is one of the pagination. -/
theorem Schema.check_inv {s : Schema} {name : Value} {op : Operator} {cfg : Config} {d : Descriptor}
    (h : (s.check name op cfg).result = .ok (some d)) :
    name.isTruthy = true ∧
      (s.acceptsAll = true ∧ d = {} ∨
        s.acceptsAll = false ∧ ∃ entry, s.entry name cfg = .ok entry ∧
          (entry.isEntry = true ∧ Descriptor.ofValue entry = .ok d ∧ d.readOnly = false ∧
              (FieldName.isReserved name = true → op = .eq) ∨
            entry.isEntry = false ∧ reservedDescriptor? name = some d)) := by
  unfold Schema.check at h
  split at h
  next => exact nomatch h
  next hname =>
    rw [Bool.not_eq_true', Bool.not_eq_false] at hname
    refine ⟨hname, ?_⟩
    split at h
    next haccepts =>
      exact .inl ⟨haccepts, (Option.some.inj (Except.ok.inj h)).symm⟩
    next haccepts =>
      obtain ⟨entry, hentry, h⟩ := Logged.result_bind_ok h
      refine .inr ⟨Bool.not_eq_true _ ▸ haccepts, entry, hentry, ?_⟩
      split at h
      next hfound =>
        obtain ⟨own, hown, h⟩ := Logged.result_bind_ok h
        unfold checkEntry at h
        split at h
        next => exact nomatch h
        next hreadOnly =>
          split at h
          next => exact nomatch h
          next hop =>
            obtain rfl := Option.some.inj (Except.ok.inj h)
            refine .inl ⟨hfound, hown, Bool.not_eq_true _ ▸ hreadOnly, fun hreserved => ?_⟩
            simpa [hreserved] using hop
      next hfound =>
        split at h
        next known hknown =>
          obtain rfl := Option.some.inj (Except.ok.inj h)
          exact .inr ⟨Bool.not_eq_true _ ▸ hfound, hknown⟩
        next => exact nomatch h

/-- The schema has an entry for the field, and not one that keeps requests away. -/
def Schema.Allows (s : Schema) (cfg : Config) (name : Value) : Prop :=
  ∃ entry d, s.entry name cfg = .ok entry ∧ entry.isEntry = true ∧
    Descriptor.ofValue entry = .ok d ∧ d.readOnly = false

/-- The template has an entry for the field that declares a default, be it null. -/
def Schema.Declares (s : Schema) (name : Value) : Prop :=
  ∃ template entry d, s.template = some template ∧ (name, entry) ∈ template ∧
    Descriptor.ofValue entry = .ok d ∧ d.default.isSome = true

theorem reservedDescriptor?_eq_none {name : Value} (h : FieldName.isReserved name = false) :
    Schema.reservedDescriptor? name = none := by
  rw [FieldName.isReserved, Bool.or_eq_false_iff] at h
  unfold Schema.reservedDescriptor?
  rw [h.1, h.2]
  rfl

/-- Outside the pagination a schema that does not accept every field accepts what it allows. -/
theorem Schema.allows_of_check {s : Schema} (hs : s.acceptsAll = false) {name : Value}
    (hname : FieldName.isReserved name = false) {op : Operator} {cfg : Config} {d : Descriptor}
    (h : (s.check name op cfg).result = .ok (some d)) : s.Allows cfg name := by
  obtain ⟨-, ⟨haccepts, -⟩ | ⟨-, entry, hentry, hfound⟩⟩ := Schema.check_inv h
  · rw [hs] at haccepts
    exact nomatch haccepts
  · rcases hfound with ⟨hfound, hd, hreadOnly, -⟩ | ⟨-, hreserved⟩
    · exact ⟨entry, d, hentry, hfound, hd, hreadOnly⟩
    · rw [reservedDescriptor?_eq_none hname] at hreserved
      exact nomatch hreserved

/-! ## Whole requests -/

/-- **A schema is a whitelist.** Every field of a filter is one to filter on, and either some pair of
the request is for it and the schema allows it, or the template declares a default for it and no pair
brought it into the matrix. -/
theorem keys_filter_whitelisted {s : Schema} (hs : s.acceptsAll = false) {cfg : Config}
    (hcfg : Mapping.find? FieldName.query cfg = none) {fallback : Value} {request : Request}
    {result : Mapping Value} (h : (compile s fallback request cfg).result = .ok result) :
    ∃ filter gathered, Filters result filter ∧
      (gatherPairs s cfg [] request).result = .ok gathered ∧
      ∀ name ∈ Mapping.keys filter, FieldName.isReserved name = false ∧
        ((∃ pair ∈ request, s.fieldOf cfg pair = .ok name) ∧ s.Allows cfg name ∨
          s.Declares name ∧ Mapping.hasKey name gathered = false) := by
  obtain ⟨cs, filled, settled, pagination, hcs, hfill, hsettle, rfl⟩ := compile_inv h
  refine ⟨_, cs.foldl Matrix.grow [], filters_assemble hcfg pagination, ?_, ?_⟩
  · rw [gatherPairs_result, hcs]
    rfl
  intro name hname
  obtain ⟨entry, hentry, rfl⟩ := List.mem_map.mp hname
  obtain ⟨hreserved, a, ha, -⟩ := Matrix.mem_filterOf_settle hsettle hentry
  refine ⟨hreserved, ?_⟩
  -- the field was there before it was settled: gathered, or written as a default
  have hkey : entry.1 ∈ Mapping.keys filled := List.mem_map_of_mem ha
  rcases mem_keys_fillDefaults hfill hkey with hgathered | ⟨hmissing, e, own, he, hown, hdefault⟩
  · rcases Matrix.mem_keys_foldl_grow hgathered with hnone | ⟨c, hc, hcname⟩
    · exact nomatch hnone
    · obtain ⟨pair, hpair, hcontribution⟩ := Schema.mem_contributions hcs hc
      obtain ⟨d, hfield, -, hcheck, -⟩ := Schema.contribution?_inv hcontribution
      rw [hcname] at hfield hcheck
      exact .inl ⟨⟨pair, hpair, hfield⟩, Schema.allows_of_check hs hreserved hcheck⟩
  · refine .inr ⟨?_, hmissing⟩
    -- there is a template, for it has an entry
    cases htemplate : s.template with
    | none =>
        rw [htemplate] at he
        exact nomatch he
    | some template =>
        rw [htemplate] at he
        exact ⟨template, e, own, htemplate, he, hown, hdefault⟩

/-- Orders: a function knows the price, for which callers may write `cost`, and the owner, which they
may not choose; defaults come from a table of other entries. -/
def orderSchema : Schema where
  template := some
    [(.text "status", .mapping [(.text "default", .text "open")]),
      (.text "price", .mapping [(.text "default", .int 0)]), (.text "note", .mapping [])]
  lookup := some fun name _ => .ok
    (if name == .text "price" then .mapping []
      else if name == .text "owner" then .mapping [(.text "read_only", .bool true)]
      else .null)
  rename := some fun name _ => .ok (if name == .text "cost" then .text "price" else name)

/-- A request that asks for more than it may. -/
def orderRequest : Request :=
  [("cost>5", .text ""), ("secret", .text "1"), ("owner", .text "8"), ("note", .text "x"),
    ("page_no", .text "2")]

def orderResult : Mapping Value :=
  [(.text "query", .mapping
      [(.text "price", .mapping [(.text "gt", .int 5)]),
        (.text "status", .mapping [(.text "eq", .list [.text "open"])])]),
    (.text "pagination", .mapping [(.text "page_no", .int 2)])]

theorem keys_order_whitelisted :
    orderSchema.acceptsAll = false ∧
    (compile orderSchema (.int 1) orderRequest []).result = .ok orderResult ∧
    ∃ filter gathered, Filters orderResult filter ∧
      (gatherPairs orderSchema [] [] orderRequest).result = .ok gathered ∧
      ∀ name ∈ Mapping.keys filter, FieldName.isReserved name = false ∧
        ((∃ pair ∈ orderRequest, orderSchema.fieldOf [] pair = .ok name) ∧
            orderSchema.Allows [] name ∨
          orderSchema.Declares name ∧ Mapping.hasKey name gathered = false) := by
  have hresult : (compile orderSchema (.int 1) orderRequest []).result = .ok orderResult := by
    have hread : (orderSchema.contributions [] orderRequest).result =
        .ok [⟨.text "price", .gt, [.int 5]⟩, ⟨.text "page_no", .eq, [.int 2]⟩] := by rfl
    rw [compile_result, hread]
    rfl
  exact ⟨rfl, hresult, keys_filter_whitelisted rfl rfl hresult⟩

end QueryFilter
