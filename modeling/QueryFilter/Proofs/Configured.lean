import QueryFilter.Proofs.Locality
import QueryFilter.Proofs.Provenance

/-!
# QueryFilter.Proofs.Configured

The configured value of a pagination field. It is looked up twice, in the pagination section and at
the top of the configuration: once to see whether it keeps the field's default away, and once to take
it. The first lookup passes over a value in the section that does not count, the second one only over
null. So the value that keeps the default away is taken, unless the section holds a value like zero
or an empty mapping, which is taken in its place.

* `topValue`, `sectionValue`: what the two places hold for a field; `Value.isHollow`: is it set
  without counting?
* `overriding_eq`, `configuredValue_eq`: the two lookups; `configuredValue_of_hollow`,
  `configuredValue_of_not_hollow`: the two compared.
* `compile_directive`: the directive of a request, from the lists of its matrix.
* `listed_of_overriding`: no default is written where the configuration supplies a value.
* `Takes`: a result takes a pagination field from a configured value.
* `compile_takes_configured`: which value that is.
-/

namespace QueryFilter

/-! ## Two lookups -/

/-- Is the value set, and yet counts as nothing? Zero and an empty mapping are such values. -/
def Value.isHollow (v : Value) : Bool := !v.isNull && !v.isTruthy

/-- What a configuration holds for a field at the top, null if nothing. -/
def topValue (cfg : Config) (name : Value) : Value := (Mapping.lookup? name cfg).getD .null

/-- What the pagination section of a configuration holds for a field, null if nothing. -/
def sectionValue (cfg : Config) (name : Value) : Value :=
  match Mapping.find? FieldName.pagination cfg with
  | some (.mapping entries) => topValue entries name
  | _ => .null

theorem sectionValue_of_mapping {cfg : Config} {entries : Mapping Value}
    (h : Mapping.find? FieldName.pagination cfg = some (.mapping entries)) (name : Value) :
    sectionValue cfg name = topValue entries name := by
  simp [sectionValue, h]

theorem sectionValue_of_not_mapping {cfg : Config}
    (h : ∀ entries, Mapping.find? FieldName.pagination cfg ≠ some (.mapping entries))
    (name : Value) : sectionValue cfg name = .null := by
  unfold sectionValue
  split
  next entries hentries => exact absurd hentries (h entries)
  next => rfl

/-- A default gives way to the value at the top; that of a pagination field gives way to a value of
the section first, if that one counts. -/
theorem overriding_eq (name : Value) (cfg : Config) : overriding name cfg =
    if FieldName.isReserved name && (sectionValue cfg name).isTruthy then sectionValue cfg name
    else topValue cfg name := by
  simp only [overriding]
  split
  next hsection => rw [sectionValue_of_mapping hsection]; rfl
  next hsection => rw [sectionValue_of_not_mapping hsection]; simp [Value.isTruthy, topValue]

theorem overriding_of_not_reserved {name : Value} (h : FieldName.isReserved name = false)
    (cfg : Config) : overriding name cfg = topValue cfg name := by
  simp [overriding_eq, h]

theorem isTruthy_overriding {name : Value} (h : FieldName.isReserved name = true) (cfg : Config) :
    (overriding name cfg).isTruthy =
      ((sectionValue cfg name).isTruthy || (topValue cfg name).isTruthy) := by
  rw [overriding_eq, h]
  cases hsection : (sectionValue cfg name).isTruthy <;> simp [hsection]

/-- A value of the section that is not null is taken, or else the one at the top. -/
theorem configuredValue_eq (cfg : Config) (field : String) : configuredValue cfg field =
    if (sectionValue cfg (.text field)).isNull then topValue cfg (.text field)
    else sectionValue cfg (.text field) := by
  simp only [configuredValue]
  split
  next hsection => rw [sectionValue_of_mapping hsection]; rfl
  next hsection => rw [sectionValue_of_not_mapping hsection]; rfl

theorem configuredValue_of_hollow {cfg : Config} {field : String}
    (h : (sectionValue cfg (.text field)).isHollow = true) :
    configuredValue cfg field = sectionValue cfg (.text field) := by
  simp only [Value.isHollow, Bool.and_eq_true, Bool.not_eq_true'] at h
  simp [configuredValue_eq, h.1]

theorem configuredValue_of_not_hollow {cfg : Config} {field : String}
    (hfield : FieldName.isReserved (.text field) = true)
    (h : (sectionValue cfg (.text field)).isHollow = false) :
    configuredValue cfg field = overriding (.text field) cfg := by
  rw [configuredValue_eq, overriding_eq, hfield]
  cases hv : sectionValue cfg (.text field) <;>
    simp_all [Value.isHollow, Value.isNull, Value.isTruthy]

/-- A value is taken wherever one keeps the default away. -/
theorem isNull_configuredValue {cfg : Config} {field : String}
    (hfield : FieldName.isReserved (.text field) = true)
    (h : (overriding (.text field) cfg).isTruthy = true) :
    (configuredValue cfg field).isNull = false := by
  cases hhollow : (sectionValue cfg (.text field)).isHollow with
  | true =>
      rw [configuredValue_of_hollow hhollow]
      simp only [Value.isHollow, Bool.and_eq_true, Bool.not_eq_true'] at hhollow
      exact hhollow.1
  | false =>
      rw [configuredValue_of_not_hollow hfield hhollow, Bool.eq_false_iff, ne_eq, Value.isNull_iff]
      intro hnull
      rw [hnull] at h
      exact nomatch h

/-! ## The directive of a request -/

/-- The directive of a request comes from the lists of its matrix. -/
theorem compile_directive {s : Schema} {fallback : Value} {request : Request} {cfg : Config}
    {result : Mapping Value} (h : (compile s fallback request cfg).result = .ok result) :
    ∃ filled defaulted built pagination,
      (gatherRequest s cfg request).result = .ok (filled, defaulted) ∧
      (filled.settle s cfg).result = .ok built ∧
      (∀ name, equalTo built.criteria name = .ok (.list (built.listed name))) ∧
      Pagination.ofQuery built.criteria cfg (defaulted.any FieldName.isSort) fallback =
        .ok pagination ∧
      result = assemble (filterOf built.criteria) cfg pagination := by
  obtain ⟨filled, defaulted, built, pagination, hgather, hsettle, hpagination, hresult⟩ :=
    compile_stages h
  obtain ⟨cs, -, hfill⟩ := gatherRequest_inv hgather
  exact ⟨filled, defaulted, built, pagination, hgather, hsettle,
    fun name => Matrix.equalTo_criteria
      (Matrix.occursOnce_settle hsettle (occursOnce_filled hfill name)), hpagination, hresult⟩

/-- A request without a pair for a field contributes nothing to it. -/
theorem contributionsTo_of_unnamed {s : Schema} {cfg : Config} {request : Request}
    {cs : List Contribution} (hcs : (s.contributions cfg request).result = .ok cs) {field : String}
    (h : ∀ pair ∈ request, s.isFor cfg field pair = false) : contributionsTo field cs = [] := by
  refine List.filter_eq_nil_iff.mpr fun c hc => ?_
  obtain ⟨pair, hpair, hc⟩ := Schema.mem_contributions hcs hc
  rw [← Schema.isFor_of_contribution? hc, h pair hpair]
  exact Bool.false_ne_true

/-- A pagination field for which the request has no pair gets no default where the configuration
supplies a value, so that nothing is listed for it. -/
theorem listed_of_overriding {s : Schema} {cfg : Config} {request : Request} {filled built : Matrix}
    {defaulted : List Value} {field : String}
    (hgather : (gatherRequest s cfg request).result = .ok (filled, defaulted))
    (hsettle : (filled.settle s cfg).result = .ok built)
    (hfield : FieldName.isReserved (.text field) = true)
    (hunnamed : ∀ pair ∈ request, s.isFor cfg field pair = false)
    (hsupplied : (overriding (.text field) cfg).isTruthy = true) :
    .text field ∉ defaulted ∧ built.listed field = [] := by
  obtain ⟨cs, hcs, hfill⟩ := gatherRequest_inv hgather
  rcases fillDefaults_at hfill field with ⟨hmark, hfilled⟩ | ⟨-, -, a, hdefault, -⟩
  · refine ⟨hmark, Matrix.listed_of_allAt (a := none) (Matrix.allAt_settle_of_nil hsettle ?_)⟩
    simp [hfilled, Matrix.allAt_gathered, contributionsTo_of_unnamed hcs hunnamed]
  · -- a default of a reserved field would need a configuration that supplies nothing
    obtain ⟨entry, d, reports, m, -, hd, -⟩ := hdefault
    obtain ⟨-, -, own, -, -, hoverride⟩ := defaultDescriptor?_inv hd
    rw [if_pos hsupplied, hfield] at hoverride
    exact nomatch hoverride.1

namespace Pagination

/-- A directive whose query lists nothing for the page fields has none. -/
theorem page_ofQuery_eq_none {query : Mapping Value} {cfg : Config} {fallback : Value}
    {sort : List Value} {sortDefaulted : Bool} {q : Pagination}
    (hno : equalTo query FieldName.pageNo = .ok (.list []))
    (hsize : equalTo query FieldName.pageSize = .ok (.list []))
    (hsort : equalTo query FieldName.sort = .ok (.list sort))
    (h : ofQuery query cfg sortDefaulted fallback = .ok (some q)) :
    q.pageNo = none ∧ q.pageSize = none := by
  obtain ⟨configured, hconfigured⟩ := exists_configuredSort h
  rw [ofQuery_eq hno hsize hsort hconfigured] at h
  split at h
  next => exact nomatch h
  next =>
    obtain ⟨page, hpage, h⟩ := Except.bind_eq_ok h
    obtain ⟨q', hq, h⟩ := Except.bind_eq_ok h
    have hempty : page = {} := (Except.ok.inj hpage).symm
    obtain rfl := Option.some.inj (Except.ok.inj h)
    rw [hempty] at hq
    exact page_withSort hq

/-- The page field of a directive that has one of them, where nothing is listed for the field and a
value is configured. -/
theorem find?_page_of_configured {query : Mapping Value} {cfg : Config} {fallback : Value}
    {sortDefaulted : Bool} {listed : String → List Value} {q : Pagination}
    (hlisted : ∀ name, equalTo query name = .ok (.list (listed name)))
    (h : ofQuery query cfg sortDefaulted fallback = .ok (some q)) {field : String}
    (hfield : field = FieldName.pageNo ∨ field = FieldName.pageSize) (hnil : listed field = [])
    (hnull : (configuredValue cfg field).isNull = false)
    (hpage : (Mapping.find? FieldName.pageNo q.toMapping).isSome = true ∨
      (Mapping.find? FieldName.pageSize q.toMapping).isSome = true) :
    Mapping.find? field q.toMapping = some (configuredValue cfg field).plain := by
  have hasks : listed FieldName.pageNo ≠ [] ∨ listed FieldName.pageSize ≠ [] := by
    by_contra hnone
    obtain ⟨hno, hsize⟩ := not_or.mp hnone
    obtain ⟨hqno, hqsize⟩ := page_ofQuery_eq_none
      ((hlisted _).trans (by rw [not_not.mp hno])) ((hlisted _).trans (by rw [not_not.mp hsize]))
      (hlisted _) h
    simp [q.find?_page_toMapping, hqno, hqsize] at hpage
  simp [find?_page_ofQuery hlisted hasks h hfield, hnil, unrequestedPageValue, hnull]

end Pagination

/-! ## The value that is taken -/

/-- Is the value a sort that is not empty: a mapping, a list or a tuple? -/
def Value.IsSort : Value → Prop
  | .mapping entries => entries ≠ []
  | .list items => items ≠ []
  | .tuple items => items ≠ []
  | _ => False

/-- The mapping of a sort: itself, or that of a list or a tuple in which fields and directions
alternate. -/
inductive Value.SortsBy : Value → Mapping Value → Prop
  | mapping (entries : Mapping Value) : SortsBy (.mapping entries) entries
  | list {items : List Value} {sort : Mapping Value} :
      sortMapping items = .ok sort → SortsBy (.list items) sort
  | tuple {items : List Value} {sort : Mapping Value} :
      sortMapping items = .ok sort → SortsBy (.tuple items) sort

/-- A result takes a pagination field from a configured value. -/
structure Takes (result : Mapping Value) (field : String) (v : Value) : Prop where
  /-- a page field is the value wherever the pagination has page fields -/
  page : FieldName.isPageKey (.text field) = true →
    ∀ fields, Mapping.find? FieldName.pagination result = some (.mapping fields) →
      (Mapping.find? FieldName.pageNo fields).isSome = true ∨
        (Mapping.find? FieldName.pageSize fields).isSome = true →
      Mapping.find? field fields = some v.plain
  /-- a sort that is not empty is the sort of the pagination, and a default -/
  sort : field = FieldName.sort → v.IsSort →
    ∃ fields sort, Mapping.find? FieldName.pagination result = some (.mapping fields) ∧
      v.SortsBy sort ∧ Mapping.find? FieldName.sort fields = some (Value.mapping sort).plain ∧
      Mapping.find? sortDefaultField fields = some (.bool true)
  /-- any other value makes no sort -/
  noSort : field = FieldName.sort → ¬v.IsSort →
    ∀ fields, Mapping.find? FieldName.pagination result = some (.mapping fields) →
      Mapping.find? FieldName.sort fields = none

theorem sortsBy_of_configuredSort {cfg : Config} {configured : Mapping Value}
    (h : configuredSort cfg = .ok configured) (hsort : ConfiguresSort cfg) :
    (configuredValue cfg FieldName.sort).SortsBy configured := by
  unfold configuredSort at h
  unfold ConfiguresSort at hsort
  cases hv : configuredValue cfg FieldName.sort with
  | mapping entries =>
      rw [hv] at h
      obtain rfl := Except.ok.inj h
      exact .mapping entries
  | list items =>
      rw [hv] at h
      exact .list h
  | tuple items =>
      rw [hv] at h
      exact .tuple h
  | _ =>
      rw [hv] at hsort
      exact hsort.elim

/-- A result whose matrix lists nothing for a pagination field takes the field from the configured
value. -/
theorem takes_configuredValue {built : Matrix} {cfg : Config} {fallback : Value}
    {sortDefaulted : Bool} {pagination : Option Pagination}
    (hlisted : ∀ name, equalTo built.criteria name = .ok (.list (built.listed name)))
    (h : Pagination.ofQuery built.criteria cfg sortDefaulted fallback = .ok pagination)
    {field : String} (hnil : built.listed field = [])
    (hnull : (configuredValue cfg field).isNull = false) (filter : Mapping Value) :
    Takes (assemble filter cfg pagination) field (configuredValue cfg field) := by
  have hfind := find?_pagination_assemble filter cfg pagination
  obtain ⟨configured, hconfigured⟩ := Pagination.exists_configuredSort h
  have hshown : ∀ fields, Mapping.find? FieldName.pagination (assemble filter cfg pagination) =
      some (.mapping fields) → ∃ q, pagination = some q ∧ fields = q.toMapping := by
    intro fields hfields
    rw [hfind] at hfields
    obtain ⟨q, hq, hmapping⟩ := Option.map_eq_some_iff.mp hfields
    exact ⟨q, hq, (Value.mapping.inj hmapping).symm⟩
  constructor
  · intro hpage fields hfields hsome
    obtain ⟨q, rfl, rfl⟩ := hshown fields hfields
    refine Pagination.find?_page_of_configured hlisted h ?_ hnil hnull hsome
    simp only [FieldName.isPageKey, Bool.or_eq_true, Value.text_beq_iff, Value.text.injEq] at hpage
    exact hpage
  · rintro rfl hsort
    have hne : configured ≠ [] := (configuredSort_ne_nil_iff hconfigured).mpr hsort
    have hsome := (Pagination.isSome_ofQuery_iff (hlisted _) (hlisted _) (hlisted _) hconfigured
      h).mpr (.inr (.inr (.inr hne)))
    obtain ⟨q, rfl⟩ := Option.isSome_iff_exists.mp hsome
    obtain ⟨hq, hmark⟩ := q.find?_sort_toMapping
    obtain ⟨-, hother⟩ :=
      Pagination.sort_ofQuery (hlisted _) (hlisted _) (hlisted _) hconfigured h
    rcases hother hnil with ⟨-, hqsort, hqmark⟩ | ⟨hempty, -⟩
    · refine ⟨q.toMapping, configured, hfind, sortsBy_of_configuredSort hconfigured hsort, ?_, ?_⟩
      · rw [hq, hqsort]
        rfl
      · rw [hmark, hqmark]
        rfl
    · exact absurd hempty hne
  · rintro rfl hsort fields hfields
    obtain ⟨q, rfl, rfl⟩ := hshown fields hfields
    obtain ⟨-, hother⟩ :=
      Pagination.sort_ofQuery (hlisted _) (hlisted _) (hlisted _) hconfigured h
    rcases hother hnil with ⟨hne, -⟩ | ⟨-, hqsort⟩
    · exact absurd ((configuredSort_ne_nil_iff hconfigured).mp hne) hsort
    · rw [q.find?_sort_toMapping.1, hqsort]
      rfl

/-- **Which configured value is taken.** A pagination field for which a request has no pair gets no
default where the configuration supplies a value that counts. The result takes the field from the
value of the pagination section, if that one is set without counting, and else from the very value
that kept the default away. -/
theorem compile_takes_configured {s : Schema} {fallback : Value} {request : Request} {cfg : Config}
    {result : Mapping Value} (h : (compile s fallback request cfg).result = .ok result)
    {field : String} (hfield : FieldName.isReserved (.text field) = true)
    (hunnamed : ∀ pair ∈ request, s.isFor cfg field pair = false)
    (hsupplied : (overriding (.text field) cfg).isTruthy = true) :
    (∃ filled defaulted, (gatherRequest s cfg request).result = .ok (filled, defaulted) ∧
      .text field ∉ defaulted) ∧
    Takes result field
      (if (sectionValue cfg (.text field)).isHollow then sectionValue cfg (.text field)
        else overriding (.text field) cfg) := by
  obtain ⟨filled, defaulted, built, pagination, hgather, hsettle, hlisted, hpagination, rfl⟩ :=
    compile_directive h
  obtain ⟨hmark, hnil⟩ := listed_of_overriding hgather hsettle hfield hunnamed hsupplied
  have htakes := takes_configuredValue hlisted hpagination hnil
    (isNull_configuredValue hfield hsupplied) (filterOf built.criteria)
  refine ⟨⟨filled, defaulted, hgather, hmark⟩, ?_⟩
  split
  next hhollow => rwa [configuredValue_of_hollow hhollow] at htakes
  next hhollow =>
    rwa [configuredValue_of_not_hollow hfield (Bool.eq_false_iff.mpr hhollow)] at htakes

/-! ## A value that is passed over -/

/-- A schema whose pages are counted from one. -/
def countedSchema : Schema where
  template := some [(.text "page_no", .mapping [(.text "default", .int 1)])]

/-- A configuration whose pagination section counts from zero, and which has a page number at the top
as well. -/
def zeroConfig : Config :=
  [(.text "pagination", .mapping [(.text "page_no", .int 0)]), (.text "page_no", .int 5)]

/-- The first page of twenty, counted from zero. -/
def zeroResult : Mapping Value :=
  [(.text "query", .mapping []),
    (.text "pagination", .mapping [(.text "page_no", .int 0), (.text "page_size", .int 20)]),
    (.text "page_no", .int 5)]

/-- The number at the top keeps the default away, and the one of the section is taken. -/
theorem zeroConfig_takes_configured :
    (compile countedSchema (.int 1) [("page_size", .text "20")] zeroConfig).result =
      .ok zeroResult ∧
    FieldName.isReserved (.text FieldName.pageNo) = true ∧
    (∀ pair ∈ [("page_size", Value.text "20")],
      countedSchema.isFor zeroConfig FieldName.pageNo pair = false) ∧
    (overriding (.text FieldName.pageNo) zeroConfig).isTruthy = true ∧
    (∃ filled defaulted, (gatherRequest countedSchema zeroConfig
      [("page_size", .text "20")]).result = .ok (filled, defaulted) ∧
      .text FieldName.pageNo ∉ defaulted) ∧
    Takes zeroResult FieldName.pageNo
      (if (sectionValue zeroConfig (.text FieldName.pageNo)).isHollow then
        sectionValue zeroConfig (.text FieldName.pageNo)
      else overriding (.text FieldName.pageNo) zeroConfig) := by
  have h : (compile countedSchema (.int 1) [("page_size", .text "20")] zeroConfig).result =
      .ok zeroResult := by rfl
  have hunnamed : ∀ pair ∈ [("page_size", Value.text "20")],
      countedSchema.isFor zeroConfig FieldName.pageNo pair = false := by
    intro pair hpair
    rw [List.mem_singleton.mp hpair]
    rfl
  exact ⟨h, rfl, hunnamed, rfl, compile_takes_configured h rfl hunnamed rfl⟩

/-- The value that keeps the default away is not always the one that is taken: here the default is
kept away by five, and the page number is zero. -/
theorem not_takes_overriding :
    ¬∀ (s : Schema) (fallback : Value) (request : Request) (cfg : Config) (result : Mapping Value)
      (field : String) (entry : Value) (d : Descriptor),
      (compile s fallback request cfg).result = .ok result →
      FieldName.isReserved (.text field) = true →
      Mapping.find? field (s.template.getD []) = some entry →
      Descriptor.ofValue entry = .ok d → d.default.isSome = true →
      (∀ pair ∈ request, s.isFor cfg field pair = false) →
      (overriding (.text field) cfg).isTruthy = true →
      Takes result field (overriding (.text field) cfg) := by
  intro hall
  have htakes := hall countedSchema (.int 1) [("page_size", .text "20")] zeroConfig zeroResult
    FieldName.pageNo _ _ rfl rfl rfl rfl rfl
    (fun pair hpair => by rw [List.mem_singleton.mp hpair]; rfl) rfl
  have hshown := htakes.page rfl _ rfl (.inl rfl)
  exact nomatch hshown

end QueryFilter
