import QueryFilter.Proofs.Paging
import QueryFilter.Proofs.SortOrder

/-!
# QueryFilter.Proofs.Provenance

Where the pagination of a result comes from, under any schema and configuration.

* `Matrix.listed`: what a matrix holds for a field under equality.
* `Schema.build`: the matrix of a request, settled.
* `requestedSort`: the tokens that a request gives for the sort.
* `DefaultSort`, `ConfiguresSort`: the tokens that the template gives for it, and whether the
  configuration supplies a sort.
* `listed_gathered`: what a run lists is what is contributed to it.
* `Matrix.readSort_settle`, `listed_filled`: the sort of a settled matrix is read from the request's
  tokens, or from those of a default.
* `SortOrigin`: the three origins of a sort.
* `Provenance`, `compile_provenance`: when there is a pagination, and where its sort comes from.
-/

namespace QueryFilter

/-- What a matrix holds for a field under equality. -/
def Matrix.listed (name : String) (m : Matrix) : List Value := (m.field (.text name)).eq.getD []

/-- The matrix that a request builds: what it gathers and the missing defaults, settled. -/
def Schema.build (s : Schema) (cfg : Config) (request : Request) : Except Fault Matrix := do
  let (filled, _) ← (gatherRequest s cfg request).result
  (filled.settle s cfg).result

/-- The tokens that the accepted pairs of a request give for the sort. -/
def requestedSort (cs : List Contribution) : List Value :=
  (valuesUnder .eq (contributionsTo FieldName.sort cs)).flatten

/-- The tokens that a template gives for the sort as a default, where no configured one stands in the
way. -/
def DefaultSort (cfg : Config) (template : Mapping Value) (tokens : List Value) : Prop :=
  ∃ entry d default, (.text FieldName.sort, entry) ∈ template ∧
    Descriptor.ofValue entry = .ok d ∧ d.default = some default ∧
    (overriding (.text FieldName.sort) cfg).isTruthy = false ∧
    Descriptor.collectedDefault (.text FieldName.sort) .eq default = .ok tokens

/-- A configuration supplies a sort that is not empty: a mapping, a list or a tuple. -/
def ConfiguresSort (cfg : Config) : Prop :=
  match configuredValue cfg FieldName.sort with
  | .mapping entries => entries ≠ []
  | .list items => items ≠ []
  | .tuple items => items ≠ []
  | _ => False

/-! ## The sort of a matrix -/

namespace Matrix

theorem listed_congr {name : String} {m n : Matrix}
    (h : Mapping.allAt name m = Mapping.allAt name n) : m.listed name = n.listed name := by
  unfold listed
  rw [field_text, field_text, h]

theorem listed_of_allAt {name : String} {m : Matrix} {a : Option Accumulator}
    (h : Mapping.allAt name m = a.toList) : m.listed name = (a.getD .empty).eq.getD [] := by
  rw [listed, field_text, h]
  cases a <;> rfl

/-- The sort is read from its tokens, or there are none to read. -/
theorem settleField_sort_inv {s : Schema} {cfg : Config} {a : Accumulator}
    {kept : Option Accumulator}
    (h : (settleField s cfg (.text FieldName.sort) a).result = .ok kept) :
    (readSort s cfg false (a.eq.getD [])).result = .ok ((kept.getD .empty).eq.getD []) := by
  unfold settleField at h
  dsimp only at h
  split at h
  next =>
    obtain ⟨values, hread, h⟩ := Logged.result_bind_ok h
    rw [hread]
    cases values with
    | nil =>
        obtain rfl := Except.ok.inj h
        rfl
    | cons v values =>
        obtain rfl := Except.ok.inj h
        rfl
  next hempty =>
    have htokens : a.eq.getD [] = [] := by
      rw [Bool.and_eq_true, Bool.not_eq_true', not_and, Bool.not_eq_false] at hempty
      exact List.isEmpty_iff.mp (hempty rfl)
    have hkept := Except.ok.inj h
    rw [htokens]
    split at hkept
    next =>
      obtain rfl := hkept
      rfl
    next =>
      obtain rfl := hkept
      rw [Option.getD_some, a.eq_settle_of_eq_nil htokens]
      rfl

/-- What a settled matrix holds for the sort is read from what the matrix held. -/
theorem readSort_settle {s : Schema} {cfg : Config} {m settled : Matrix}
    (h : (m.settle s cfg).result = .ok settled) (hm : Mapping.OccursOnce FieldName.sort m) :
    (readSort s cfg false (m.listed FieldName.sort)).result =
      .ok (settled.listed FieldName.sort) := by
  obtain ⟨a, ha⟩ := hm
  rw [listed_of_allAt ha]
  cases a with
  | none =>
      rw [listed_of_allAt (a := none) (allAt_settle_of_nil h ha)]
      rfl
  | some a =>
      obtain ⟨kept, hkept, hsettled⟩ := allAt_settle_singleton h ha
      rw [listed_of_allAt hsettled]
      exact settleField_sort_inv hkept

/-- What a query holds for a field under equality is what its matrix holds. -/
theorem equalTo_criteria {name : String} {m : Matrix} (h : Mapping.OccursOnce name m) :
    equalTo m.criteria name = .ok (.list (m.listed name)) := by
  obtain ⟨a, ha⟩ := h
  rw [listed_of_allAt ha]
  refine equalTo_eq ?_
  rw [Mapping.find?_eq_head?_allAt, allAt_criteria_of_allAt ha, Option.head?_toList]
  cases a <;> rfl

end Matrix

/-! ## The tokens of a sort -/

theorem any_isSort_iff {names : List Value} :
    names.any FieldName.isSort = true ↔ .text FieldName.sort ∈ names := by
  rw [List.any_eq_true]
  simp only [FieldName.isSort, Value.text_beq_iff, exists_eq_right]

/-- What a run lists for a field is what is contributed to it under equality. -/
theorem listed_gathered (name : String) (cs : List Contribution) :
    (cs.foldl Matrix.grow []).listed name = (valuesUnder .eq (contributionsTo name cs)).flatten := by
  unfold Matrix.listed
  rw [Matrix.field_gathered]
  exact Accumulator.collected_gathered .eq _

/-- A default of the sort is a list of tokens, which no configured sort suppresses. -/
theorem DefaultOf.defaultSort {cfg : Config} {template : Mapping Value} {a : Accumulator}
    (h : DefaultOf cfg template FieldName.sort a) :
    ∃ tokens, a.eq = some tokens ∧ DefaultSort cfg template tokens := by
  obtain ⟨entry, d, reports, m, hmem, hd, ha⟩ := h
  obtain ⟨-, -, own, hown, hdefault, hoverride⟩ := defaultDescriptor?_inv hd
  split at hoverride
  next =>
    -- a configured sort would leave the default unwritten
    exact nomatch hoverride.1
  next hfalsy =>
    rw [Bool.not_eq_true] at hfalsy
    subst hoverride
    obtain ⟨default, hown_default⟩ := Option.isSome_iff_exists.mp hdefault
    obtain ⟨tokens, htokens, rfl⟩ := Descriptor.defaultAccumulator_of_reserved rfl ha
    rw [hown_default] at htokens
    exact ⟨tokens, rfl, entry, _, default, hmem, hown, hown_default, hfalsy, htokens⟩

section Filled

variable {cfg : Config} {template : Mapping Value} {cs : List Contribution} {filled : Matrix}
  {defaulted : List Value}

/-- The tokens of the sort before it is read: those of the request, or, where no pair was for the sort,
those of a default, which is marked. -/
theorem listed_filled
    (h : (fillDefaults cfg template (cs.foldl Matrix.grow [])).toLogged.result =
      .ok (filled, defaulted)) :
    (defaulted.any FieldName.isSort = false ∧
      filled.listed FieldName.sort = requestedSort cs) ∨
    (defaulted.any FieldName.isSort = true ∧ contributionsTo FieldName.sort cs = [] ∧
      DefaultSort cfg template (filled.listed FieldName.sort)) := by
  rcases fillDefaults_at h FieldName.sort with
    ⟨hmark, hfilled⟩ | ⟨hmark, hnone, a, ha, hfilled⟩
  · refine .inl ⟨Bool.eq_false_iff.mpr fun hany => hmark (any_isSort_iff.mp hany), ?_⟩
    rw [requestedSort, ← listed_gathered]
    exact Matrix.listed_congr hfilled
  · obtain ⟨tokens, htokens, hdefault⟩ := ha.defaultSort
    refine .inr ⟨any_isSort_iff.mpr hmark, ?_, ?_⟩
    · rw [Matrix.allAt_gathered] at hnone
      split at hnone
      next hempty => exact List.isEmpty_iff.mp hempty
      next => exact nomatch hnone
    · rw [Matrix.listed_of_allAt (a := some a) hfilled, Option.getD_some, htokens]
      exact hdefault

end Filled

/-! ## The configured sort -/

theorem putSort_ne_nil {values : List Value} {m sort : Mapping Value}
    (h : putSort m values = .ok sort) (hne : m ≠ [] ∨ values ≠ []) : sort ≠ [] := by
  induction m, values using putSort.induct with
  | case1 m =>
      obtain rfl := Except.ok.inj h
      exact hne.resolve_right (fun hnil => hnil rfl)
  | case2 m field =>
      obtain ⟨key, -, h⟩ := Except.bind_eq_ok h
      obtain rfl := Except.ok.inj h
      exact Mapping.put_ne_nil _ _ _
  | case3 m field direction rest ih =>
      obtain ⟨key, -, h⟩ := Except.bind_eq_ok h
      exact ih key h (.inl (Mapping.put_ne_nil _ _ _))

/-- The mapping of a list is empty where the list is. -/
theorem sortMapping_ne_nil_iff {values : List Value} {sort : Mapping Value}
    (h : sortMapping values = .ok sort) : sort ≠ [] ↔ values ≠ [] := by
  constructor
  · rintro hne rfl
    exact hne (Except.ok.inj h).symm
  · exact fun hne => putSort_ne_nil h (.inr hne)

theorem configuredSort_ne_nil_iff {cfg : Config} {configured : Mapping Value}
    (h : configuredSort cfg = .ok configured) : configured ≠ [] ↔ ConfiguresSort cfg := by
  unfold configuredSort at h
  unfold ConfiguresSort
  cases hv : configuredValue cfg FieldName.sort with
  | mapping entries =>
      rw [hv] at h
      obtain rfl := Except.ok.inj h
      rfl
  | list items =>
      rw [hv] at h
      exact sortMapping_ne_nil_iff h
  | tuple items =>
      rw [hv] at h
      exact sortMapping_ne_nil_iff h
  | _ =>
      rw [hv] at h
      obtain rfl := Except.ok.inj h
      exact ⟨fun hne => hne rfl, False.elim⟩

/-! ## Provenance -/

/-- Where the sort of a result comes from, and whether it counts as a default: from the tokens of the
request, if they keep a field; else from a default of the template, if no pair was for the sort; else
from the configuration. `kept` is what the request's own tokens keep. -/
inductive SortOrigin (s : Schema) (cfg : Config) (cs : List Contribution) (built : Matrix)
    (kept : List Value) : Bool → Value → Prop where
  | request {sort : Mapping Value} : kept ≠ [] → sortMapping kept = .ok sort →
      SortOrigin s cfg cs built kept false (.mapping sort)
  | template {tokens : List Value} {sort : Mapping Value} : kept = [] →
      contributionsTo FieldName.sort cs = [] → DefaultSort cfg (s.template.getD []) tokens →
      (readSort s cfg false tokens).result = .ok (built.listed FieldName.sort) →
      built.listed FieldName.sort ≠ [] → sortMapping (built.listed FieldName.sort) = .ok sort →
      SortOrigin s cfg cs built kept true (.mapping sort)
  | configuration {sort : Mapping Value} : kept = [] → built.listed FieldName.sort = [] →
      ConfiguresSort cfg → configuredSort cfg = .ok sort →
      SortOrigin s cfg cs built kept true (Value.mapping sort).plain

/-- Where the pagination of a result comes from: the contributions of the request, the matrix that it
builds, and what its own tokens keep for the sort. -/
structure Provenance (s : Schema) (cfg : Config) (request : Request) (result : Mapping Value)
    (cs : List Contribution) (built : Matrix) (kept : List Value) : Prop where
  contributions : (s.contributions cfg request).result = .ok cs
  build : s.build cfg request = .ok built
  keeps : (readSort s cfg false (requestedSort cs)).result = .ok kept
  /-- there is a pagination where the matrix holds something for it, or a sort is configured -/
  isSome_iff : (Mapping.find? FieldName.pagination result).isSome = true ↔
    built.listed FieldName.pageNo ≠ [] ∨ built.listed FieldName.pageSize ≠ [] ∨
      built.listed FieldName.sort ≠ [] ∨ ConfiguresSort cfg
  /-- a sort in it is marked as no default exactly where the request's tokens keep a field -/
  sort : ∀ part, Mapping.find? FieldName.pagination result = some part →
    ∃ fields, part = .mapping fields ∧
      ∀ sort, Mapping.find? FieldName.sort fields = some sort →
        ∃ isDefault, Mapping.find? sortDefaultField fields = some (.bool isDefault) ∧
          (isDefault = false ↔ kept ≠ []) ∧ SortOrigin s cfg cs built kept isDefault sort

/-- The sort that a directive shows, with its mark: the mapping of what the matrix lists, or, where it
lists nothing, the configured one. -/
theorem shown_sort {s : Schema} {cfg : Config} {built : Matrix} {tokens : List Value}
    {sortDefaulted : Bool} {fallback : Value} {q : Pagination}
    (hbuilt : ∀ name, Mapping.OccursOnce name built)
    (hread : (readSort s cfg false tokens).result = .ok (built.listed FieldName.sort))
    (h : Pagination.ofQuery built.criteria cfg sortDefaulted fallback = .ok (some q)) {sort : Value}
    (hsort : Mapping.find? FieldName.sort q.toMapping = some sort) :
    (built.listed FieldName.sort ≠ [] ∧
      Mapping.find? sortDefaultField q.toMapping = some (.bool sortDefaulted) ∧
      ∃ m, sortMapping (built.listed FieldName.sort) = .ok m ∧ sort = .mapping m) ∨
    (built.listed FieldName.sort = [] ∧ ConfiguresSort cfg ∧
      Mapping.find? sortDefaultField q.toMapping = some (.bool true) ∧
      ∃ m, configuredSort cfg = .ok m ∧ sort = (Value.mapping m).plain) := by
  obtain ⟨configured, hconfigured⟩ := Pagination.exists_configuredSort h
  have hlisted := fun name => Matrix.equalTo_criteria (hbuilt name)
  obtain ⟨hrequested, hother⟩ :=
    Pagination.sort_ofQuery (hlisted _) (hlisted _) (hlisted _) hconfigured h
  obtain ⟨hshown, hmark⟩ := q.find?_sort_toMapping
  rw [hshown] at hsort
  rw [hmark]
  by_cases hnil : built.listed FieldName.sort = []
  · rcases hother hnil with ⟨hne, hq, hqmark⟩ | ⟨-, hq⟩
    · rw [hq] at hsort
      rw [hqmark]
      exact .inr ⟨hnil, (configuredSort_ne_nil_iff hconfigured).mp hne, rfl, configured,
        hconfigured, (Option.some.inj hsort).symm⟩
    · rw [hq] at hsort
      exact nomatch hsort
  · obtain ⟨m, hm, hq, hqmark⟩ := hrequested hnil
    rw [hq] at hsort
    rw [hqmark]
    refine .inl ⟨hnil, rfl, m, hm, (Option.some.inj hsort).symm.trans ?_⟩
    -- what was read is an order, whose mapping is plain
    obtain ⟨d, order, hvalues, -⟩ := readSort_inv hread
    rw [hvalues] at hm
    exact plain_of_sortMapping hm

theorem SortOrigin.mark_iff {s : Schema} {cfg : Config} {cs : List Contribution} {built : Matrix}
    {kept : List Value} {isDefault : Bool} {sort : Value}
    (h : SortOrigin s cfg cs built kept isDefault sort) : isDefault = false ↔ kept ≠ [] := by
  cases h with
  | request hne => exact ⟨fun _ => hne, fun _ => rfl⟩
  | template hnil => exact ⟨nofun, fun hne => absurd hnil hne⟩
  | configuration hnil => exact ⟨nofun, fun hne => absurd hnil hne⟩

/-- The sort that a directive shows has an origin, which its mark tells. -/
theorem exists_sortOrigin {s : Schema} {cfg : Config} {cs : List Contribution}
    {filled built : Matrix} {defaulted : List Value}
    (hfill : (fillDefaults cfg (s.template.getD []) (cs.foldl Matrix.grow [])).toLogged.result =
      .ok (filled, defaulted))
    (hsettle : (filled.settle s cfg).result = .ok built) (fallback : Value) :
    ∃ kept, (readSort s cfg false (requestedSort cs)).result = .ok kept ∧
      ∀ q, Pagination.ofQuery built.criteria cfg (defaulted.any FieldName.isSort) fallback =
          .ok (some q) →
        ∀ sort, Mapping.find? FieldName.sort q.toMapping = some sort →
          ∃ isDefault, Mapping.find? sortDefaultField q.toMapping = some (.bool isDefault) ∧
            SortOrigin s cfg cs built kept isDefault sort := by
  have hbuilt := fun name => Matrix.occursOnce_settle hsettle (occursOnce_filled hfill name)
  have hread := Matrix.readSort_settle hsettle (occursOnce_filled hfill FieldName.sort)
  rcases listed_filled hfill with ⟨hmark, hlisted⟩ | ⟨hmark, hnone, hdefault⟩
  · -- the matrix lists the request's tokens, and what they keep
    rw [hlisted] at hread
    refine ⟨_, hread, fun q hq sort hsort => ?_⟩
    rcases shown_sort hbuilt hread hq hsort with
      ⟨hne, hshown, m, hm, rfl⟩ | ⟨hnil, hconfigures, hshown, m, hm, rfl⟩
    · rw [hmark] at hshown
      exact ⟨false, hshown, .request hne hm⟩
    · exact ⟨true, hshown, .configuration hnil hnil hconfigures hm⟩
  · -- no pair was for the sort, and the matrix lists what a default keeps
    have hkept : (readSort s cfg false (requestedSort cs)).result = .ok [] := by
      rw [requestedSort, hnone]
      rfl
    refine ⟨[], hkept, fun q hq sort hsort => ?_⟩
    rcases shown_sort hbuilt hread hq hsort with
      ⟨hne, hshown, m, hm, rfl⟩ | ⟨hnil, hconfigures, hshown, m, hm, rfl⟩
    · rw [hmark] at hshown
      exact ⟨true, hshown, .template rfl hnone hdefault hread hne hm⟩
    · exact ⟨true, hshown, .configuration rfl hnil hconfigures hm⟩

/-- **Presence and provenance of the pagination.** Whatever the schema and the configuration, a result
has a pagination exactly where the settled matrix holds something for one of the reserved fields or a
sort is configured. A sort in it is the request's own, and no default, exactly where the request's
tokens keep a field. -/
theorem compile_provenance {s : Schema} {fallback : Value} {request : Request} {cfg : Config}
    {result : Mapping Value} (h : (compile s fallback request cfg).result = .ok result) :
    ∃ cs built kept, Provenance s cfg request result cs built kept := by
  obtain ⟨filled, defaulted, built, pagination, hgather, hsettle, hpagination, rfl⟩ :=
    compile_stages h
  obtain ⟨cs, hcs, hfill⟩ := gatherRequest_inv hgather
  obtain ⟨kept, hkept, horigin⟩ := exists_sortOrigin hfill hsettle fallback
  obtain ⟨configured, hconfigured⟩ := Pagination.exists_configuredSort hpagination
  have hfind := find?_pagination_assemble (filterOf built.criteria) cfg pagination
  refine ⟨cs, built, kept, ⟨hcs, ?_, hkept, ?_, ?_⟩⟩
  · unfold Schema.build
    rw [hgather]
    exact hsettle
  · have hlisted := fun name => Matrix.equalTo_criteria
      (Matrix.occursOnce_settle hsettle (occursOnce_filled hfill name))
    rw [hfind, Option.isSome_map, ← configuredSort_ne_nil_iff hconfigured]
    exact Pagination.isSome_ofQuery_iff (hlisted _) (hlisted _) (hlisted _) hconfigured hpagination
  · intro part hpart
    rw [hfind] at hpart
    obtain ⟨q, rfl, rfl⟩ := Option.map_eq_some_iff.mp hpart
    refine ⟨q.toMapping, rfl, fun sort hsort => ?_⟩
    obtain ⟨isDefault, hmark, hsource⟩ := horigin q hpagination sort hsort
    exact ⟨isDefault, hmark, hsource.mark_iff, hsource⟩

/-! ## A sort that is passed over -/

/-- A schema whose results are ranked by default. -/
def rankedSchema : Schema where
  template := some [(.text "sort", .mapping [(.text "default", .mapping [(.text "rank", .int 1)])])]

/-- A configuration with a sort of its own. -/
def datedConfig : Config := [(.text "sort", .mapping [(.text "date", .int (-1))])]

/-- A result that says nothing but the configured sort. -/
def datedResult : Mapping Value :=
  [(.text "query", .mapping []), (.text "sort", .mapping [(.text "date", .int (-1))]),
    (.text "pagination", .mapping [(.text "sort", .mapping [(.text "date", .int (-1))]),
      (.text "sort_default", .bool true)])]

/-- The request asks for a sort of which nothing can be kept. The default of the schema is not written
either, for a pair was for the sort, so that the configured one is taken. -/
theorem strayRequest_provenance :
    (compile rankedSchema (.int 1) [("sort", .text "5|-1")] datedConfig).result =
      .ok datedResult ∧
    ∃ cs built kept,
      Provenance rankedSchema datedConfig [("sort", .text "5|-1")] datedResult cs built kept := by
  have h : (compile rankedSchema (.int 1) [("sort", .text "5|-1")] datedConfig).result =
      .ok datedResult := by rfl
  exact ⟨h, compile_provenance h⟩

end QueryFilter
