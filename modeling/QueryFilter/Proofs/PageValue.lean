import QueryFilter.Proofs.Provenance

/-!
# QueryFilter.Proofs.PageValue

Which of the values that a request gives for a page field is shown. The last one is taken, but only
after repeated values have been dropped, the page fields being settled like any other. So a last value
that repeats an earlier one is passed over.

* `requestedValues`: the values that the accepted pairs of a request give for a field.
* `Matrix.listed_settle`: a settled field lists its values once each.
* `listed_filled_of_requested`: no default comes in where a request gives values.
* `compile_pageValue`: the value that is shown.
-/

namespace QueryFilter

/-- The values that the accepted pairs of a request give for a field under equality, in order. -/
def requestedValues (name : String) (cs : List Contribution) : List Value :=
  (valuesUnder .eq (contributionsTo name cs)).flatten

/-- Settling lists the values of a field that is not the sort once each. -/
theorem Matrix.listed_settle {s : Schema} {cfg : Config} {name : String} {m settled : Matrix}
    (hname : FieldName.isSort (.text name) = false) (h : (m.settle s cfg).result = .ok settled)
    (hm : Mapping.OccursOnce name m) : settled.listed name = Value.distinct (m.listed name) := by
  obtain ⟨a, ha⟩ := hm
  have hsettled := allAt_settle_of_not_sort hname h
  rw [ha] at hsettled
  rw [listed_of_allAt ha]
  cases a with
  | none => exact listed_of_allAt (a := none) hsettled
  | some a =>
      have heq : (a.settle (.text name)).1.eq.getD [] = Value.distinct (a.eq.getD []) := by
        have hcollected := a.collected_settle (.text name) .eq
        change (a.settle (.text name)).1.eq = a.eq.map Value.distinct at hcollected
        rw [hcollected]
        cases a.eq <;> rfl
      rw [Option.getD_some, ← heq]
      by_cases hempty : (a.settle (.text name)).1.isEmpty = true
      · -- nothing is left of the field, and so no value was listed
        rw [Option.toList_some, List.filterMap_cons, if_pos hempty] at hsettled
        rw [listed_of_allAt (a := none) hsettled]
        exact (Accumulator.collected_of_isEmpty hempty .eq).symm
      · rw [Option.toList_some, List.filterMap_cons, if_neg hempty] at hsettled
        exact listed_of_allAt (a := some _) hsettled

/-- A default is not written where a request gives values. -/
theorem listed_filled_of_requested {cfg : Config} {template : Mapping Value}
    {cs : List Contribution} {filled : Matrix} {defaulted : List Value}
    (h : (fillDefaults cfg template (cs.foldl Matrix.grow [])).toLogged.result =
      .ok (filled, defaulted)) {name : String} (hne : requestedValues name cs ≠ []) :
    filled.listed name = requestedValues name cs := by
  unfold requestedValues at *
  rw [← listed_gathered] at *
  rcases fillDefaults_at h name with ⟨-, hfilled⟩ | ⟨-, hnone, -⟩
  · exact Matrix.listed_congr hfilled
  · exact absurd (Matrix.listed_of_allAt (a := none) hnone) hne

/-- A directive shows the last value that the query lists for a page field. -/
theorem Pagination.find?_page_of_listed {query : Mapping Value} {cfg : Config} {fallback : Value}
    {sortDefaulted : Bool} {listed : String → List Value} {p : Option Pagination}
    (hlisted : ∀ name, equalTo query name = .ok (.list (listed name)))
    (h : ofQuery query cfg sortDefaulted fallback = .ok p) {field : String}
    (hfield : field = FieldName.pageNo ∨ field = FieldName.pageSize) {v : Value}
    (hv : (listed field).getLast? = some v) :
    ∃ q, p = some q ∧ Mapping.find? field q.toMapping = some v.plain := by
  have hne : listed field ≠ [] := by
    intro hnil
    rw [hnil] at hv
    exact nomatch hv
  have hpage : listed FieldName.pageNo ≠ [] ∨ listed FieldName.pageSize ≠ [] := by
    rcases hfield with rfl | rfl
    · exact .inl hne
    · exact .inr hne
  obtain ⟨configured, hconfigured⟩ := exists_configuredSort h
  have hsome := (isSome_ofQuery_iff (hlisted _) (hlisted _) (hlisted _) hconfigured h).mpr
    (hpage.imp_right .inl)
  obtain ⟨q, rfl⟩ := Option.isSome_iff_exists.mp hsome
  refine ⟨q, rfl, ?_⟩
  rw [find?_page_ofQuery hlisted hpage h hfield, hv]
  rfl

/-- **The value of a page field.** Where the accepted pairs of a request give values for it, the result
shows the last of the distinct ones. That is the last value given, unless the same one was given
before. -/
theorem compile_pageValue {s : Schema} {fallback : Value} {request : Request} {cfg : Config}
    {result : Mapping Value} (h : (compile s fallback request cfg).result = .ok result)
    {cs : List Contribution} (hcs : (s.contributions cfg request).result = .ok cs) {field : String}
    (hfield : field = FieldName.pageNo ∨ field = FieldName.pageSize)
    (hne : requestedValues field cs ≠ []) :
    ∃ fields v, Mapping.find? FieldName.pagination result = some (.mapping fields) ∧
      Mapping.find? field fields = some v.plain ∧
      (Value.distinct (requestedValues field cs)).getLast? = some v ∧
      ∀ earlier last, requestedValues field cs = earlier ++ [last] →
        earlier.contains last = false → v = last := by
  obtain ⟨filled, defaulted, built, pagination, hgather, hsettle, hpagination, rfl⟩ :=
    compile_stages h
  obtain ⟨others, hothers, hfill⟩ := gatherRequest_inv hgather
  obtain rfl := Except.ok.inj (hcs.symm.trans hothers)
  have hsort : FieldName.isSort (.text field) = false := by
    rcases hfield with rfl | rfl <;> decide
  have hbuilt : built.listed field = Value.distinct (requestedValues field cs) := by
    rw [Matrix.listed_settle hsort hsettle (occursOnce_filled hfill field),
      listed_filled_of_requested hfill hne]
  obtain ⟨v, hv⟩ : ∃ v, (Value.distinct (requestedValues field cs)).getLast? = some v :=
    ⟨_, List.getLast?_eq_some_getLast (Value.distinct_ne_nil hne)⟩
  have hlast : (built.listed field).getLast? = some v := by
    rw [hbuilt]
    exact hv
  have hlisted : ∀ name, equalTo built.criteria name = .ok (.list (built.listed name)) :=
    fun name => Matrix.equalTo_criteria
      (Matrix.occursOnce_settle hsettle (occursOnce_filled hfill name))
  obtain ⟨q, rfl, hshown⟩ := Pagination.find?_page_of_listed hlisted hpagination hfield hlast
  refine ⟨q.toMapping, v, find?_pagination_assemble _ cfg _, hshown, hv, ?_⟩
  intro earlier last hgiven hnew
  rw [hgiven, Value.distinct_concat_of_new hnew, List.getLast?_concat] at hv
  exact (Option.some.inj hv).symm

/-- A page number given twice, one of them new. -/
def pageRequest : Request := [("page_no", .text "1|2"), ("page_no", .text " 4")]

/-- What it contributes. -/
def pageContributions : List Contribution :=
  [⟨.text "page_no", .eq, [.int 1, .int 2]⟩, ⟨.text "page_no", .eq, [.int 4]⟩]

/-- What it compiles to. -/
def pageResult : Mapping Value :=
  [(.text "query", .mapping []), (.text "pagination", .mapping [(.text "page_no", .int 4)])]

theorem compile_pageRequest :
    (compile {} (.int 1) pageRequest []).result = .ok pageResult ∧
    (({} : Schema).contributions [] pageRequest).result = .ok pageContributions ∧
    requestedValues FieldName.pageNo pageContributions ≠ [] ∧
    ∃ fields v, Mapping.find? FieldName.pagination pageResult = some (.mapping fields) ∧
      Mapping.find? FieldName.pageNo fields = some v.plain ∧
      (Value.distinct (requestedValues FieldName.pageNo pageContributions)).getLast? = some v ∧
      ∀ earlier last, requestedValues FieldName.pageNo pageContributions = earlier ++ [last] →
        earlier.contains last = false → v = last := by
  have hcs : (({} : Schema).contributions [] pageRequest).result = .ok pageContributions := by rfl
  have h : (compile {} (.int 1) pageRequest []).result = .ok pageResult := by
    rw [compile_result, hcs]
    rfl
  have hne : requestedValues FieldName.pageNo pageContributions ≠ [] := nofun
  exact ⟨h, hcs, hne, compile_pageValue h hcs (.inl rfl) hne⟩

/-- The last value given is not always the one that is shown: here it repeats the first one, and the
one between them is shown. -/
theorem not_last_pageValue :
    ¬∀ (s : Schema) (fallback : Value) (request : Request) (cfg : Config) (result : Mapping Value)
      (cs : List Contribution) (last : Value),
      (compile s fallback request cfg).result = .ok result →
      (s.contributions cfg request).result = .ok cs →
      (requestedValues FieldName.pageNo cs).getLast? = some last →
      ∃ fields, Mapping.find? FieldName.pagination result = some (.mapping fields) ∧
        Mapping.find? FieldName.pageNo fields = some last.plain := by
  intro hlast
  have hshown := hlast {} (.int 1) [("page_no", .list [.text "2", .text "3", .text "2"])] []
    [(.text "query", .mapping []), (.text "pagination", .mapping [(.text "page_no", .int 3)])]
    [⟨.text "page_no", .eq, [.int 2, .int 3, .int 2]⟩] (.int 2) rfl rfl rfl
  obtain ⟨fields, hfields, hpage⟩ := hshown
  cases hfields
  exact nomatch hpage

end QueryFilter
