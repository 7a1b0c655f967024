import QueryFilter.Proofs.Configured

/-!
# QueryFilter.Proofs.Fallback

What the page fallback reaches. Two runs that differ in nothing but their fallback have results that
differ in nothing but the page fields that it fills: those of which the request and the defaults
leave no value, which the configuration does not set, and for which it has a pagination section. The
page's number is such a field as much as its size.

* `Fills`: the fields that the fallback fills.
* `AgreeUnless`, `Pagination.unrequestedPageValue_or`: one page field under two fallbacks.
* `Pagination.AgreesBut`, `Pagination.ofQuery_agreesBut`: the directive under two fallbacks.
* `Pagination.keys_toMapping`, `Pagination.find?_toMapping_of_ne`: the directive as a mapping.
* `ResultsAgreeBut`, `compile_fallback_agrees`: the results of two runs.
-/

namespace QueryFilter

/-- The fallback fills a page field for which nothing is listed and nothing is configured, if the
configuration has a pagination section. -/
structure Fills (listed : String → List Value) (cfg : Config) (field : String) : Prop where
  isPageKey : FieldName.isPageKey (.text field) = true
  unlisted : listed field = []
  unconfigured : configuredValue cfg field = .null
  hasSection : hasPaginationSection cfg = true

/-- Two values agree, unless each is its run's fallback. -/
def AgreeUnless (filled : Prop) (p q : Value) (a b : Option Value) : Prop :=
  a = b ∨ filled ∧ a = some p ∧ b = some q

theorem AgreeUnless.isSome_eq {filled : Prop} {p q : Value} {a b : Option Value}
    (h : AgreeUnless filled p q a b) : a.isSome = b.isSome := by
  rcases h with rfl | ⟨-, rfl, rfl⟩ <;> rfl

theorem AgreeUnless.map {filled : Prop} {p q : Value} {a b : Option Value}
    (h : AgreeUnless filled p q a b) (f : Value → Value) :
    AgreeUnless filled (f p) (f q) (a.map f) (b.map f) := by
  rcases h with rfl | ⟨hfilled, rfl, rfl⟩
  · exact .inl rfl
  · exact .inr ⟨hfilled, rfl, rfl⟩

namespace Pagination

/-! ## The directive -/

section Directive

variable {query : Mapping Value} {cfg : Config} {sortDefaulted : Bool} {listed : String → List Value}

/-- The value of a page field under two fallbacks. -/
theorem unrequestedPageValue_or {field : String}
    (hfield : FieldName.isPageKey (.text field) = true) (p q : Value) :
    AgreeUnless (Fills listed cfg field) p q
      ((listed field).getLast?.or (unrequestedPageValue cfg p field))
      ((listed field).getLast?.or (unrequestedPageValue cfg q field)) := by
  simp only [unrequestedPageValue]
  cases hlisted : listed field with
  | cons v rest =>
      rw [List.getLast?_eq_some_getLast (List.cons_ne_nil v rest)]
      exact .inl rfl
  | nil =>
      cases hnull : (configuredValue cfg field).isNull with
      | false => exact .inl (by simp)
      | true =>
          cases hsection : hasPaginationSection cfg with
          | false => exact .inl (by simp)
          | true => exact .inr ⟨⟨hfield, hlisted, Value.isNull_iff.mp hnull, hsection⟩, rfl, rfl⟩

/-- Two directives agree, but for the page fields that a fallback fills. -/
structure AgreesBut (filled : String → Prop) (p q : Value) (d e : Pagination) : Prop where
  pageNo : AgreeUnless (filled FieldName.pageNo) p q d.pageNo e.pageNo
  pageSize : AgreeUnless (filled FieldName.pageSize) p q d.pageSize e.pageSize
  sort : d.sort = e.sort
  sortDefault : d.sortDefault = e.sortDefault

theorem AgreesBut.refl (filled : String → Prop) (p q : Value) (d : Pagination) :
    AgreesBut filled p q d d :=
  ⟨.inl rfl, .inl rfl, rfl, rfl⟩

/-- A sort is set whatever the page fields are. -/
theorem AgreesBut.withSort {filled : String → Prop} {p q : Value} {d e d' : Pagination}
    (h : AgreesBut filled p q d e) {requested : Value} {configured : Mapping Value}
    (hd : d.withSort requested sortDefaulted configured = .ok d') :
    ∃ e', e.withSort requested sortDefaulted configured = .ok e' ∧ AgreesBut filled p q d' e' := by
  unfold Pagination.withSort at *
  split at hd
  next htruthy =>
    obtain ⟨sort, hsort, hd⟩ := Except.bind_eq_ok hd
    obtain rfl := Except.ok.inj hd
    rw [if_pos htruthy, hsort]
    exact ⟨_, rfl, ⟨h.pageNo, h.pageSize, rfl, rfl⟩⟩
  next hfalsy =>
    rw [if_neg hfalsy]
    split at hd
    next hconfigured =>
      obtain rfl := Except.ok.inj hd
      rw [if_pos hconfigured]
      exact ⟨_, rfl, ⟨h.pageNo, h.pageSize, rfl, rfl⟩⟩
    next hempty =>
      obtain rfl := Except.ok.inj hd
      rw [if_neg hempty]
      exact ⟨_, rfl, h⟩

/-- The directive under two fallbacks. -/
theorem ofQuery_agreesBut (hlisted : ∀ name, equalTo query name = .ok (.list (listed name)))
    {p : Value} {d : Option Pagination} (h : ofQuery query cfg sortDefaulted p = .ok d) (q : Value) :
    ∃ e, ofQuery query cfg sortDefaulted q = .ok e ∧
      Option.Rel (AgreesBut (Fills listed cfg) p q) d e := by
  obtain ⟨configured, hconfigured⟩ := exists_configuredSort h
  rw [ofQuery_eq (hlisted _) (hlisted _) (hlisted _) hconfigured] at h ⊢
  split at h
  next hnothing =>
    obtain rfl := Except.ok.inj h
    exact ⟨none, if_pos hnothing, .none⟩
  next hsomething =>
    rw [if_neg hsomething]
    obtain ⟨page, hpage, h⟩ := Except.bind_eq_ok h
    obtain ⟨d', hd, h⟩ := Except.bind_eq_ok h
    obtain rfl := Except.ok.inj h
    -- the pages agree, so that the sorts can be set on both
    have hpages : ∃ page',
        (if (Value.list (listed FieldName.pageNo)).isTruthy ||
            (Value.list (listed FieldName.pageSize)).isTruthy then ofPage query cfg q
          else pure {}) = .ok page' ∧ AgreesBut (Fills listed cfg) p q page page' := by
      split at hpage
      next hasks =>
        rw [ofPage_eq (hlisted _) (hlisted _)] at hpage
        obtain rfl := Except.ok.inj hpage
        rw [if_pos hasks, ofPage_eq (hlisted _) (hlisted _)]
        exact ⟨_, rfl, unrequestedPageValue_or rfl p q, unrequestedPageValue_or rfl p q, rfl, rfl⟩
      next hasks =>
        obtain rfl := Except.ok.inj hpage
        exact ⟨{}, if_neg hasks, .refl _ p q _⟩
    obtain ⟨page', hpage', hagrees⟩ := hpages
    obtain ⟨e', he, hagrees⟩ := hagrees.withSort hd
    refine ⟨some e', ?_, .some hagrees⟩
    rw [hpage']
    show (page'.withSort _ _ _ >>= _) = _
    rw [he]
    rfl

end Directive

/-! ## The directive as a mapping -/

/-- The parts that are set are the keys. -/
theorem keys_toMapping (d : Pagination) : Mapping.keys d.toMapping =
    [(FieldName.pageNo, d.pageNo.isSome), (FieldName.pageSize, d.pageSize.isSome),
      (FieldName.sort, d.sort.isSome), (sortDefaultField, d.sortDefault.isSome)].filterMap
        fun part => if part.2 then some (.text part.1) else none := by
  rcases d with ⟨_ | _, _ | _, _ | _, _ | _⟩ <;> rfl

/-- The page fields are not looked at under other names. -/
theorem find?_toMapping_of_ne {name : String} (hno : name ≠ FieldName.pageNo)
    (hsize : name ≠ FieldName.pageSize) (d : Pagination) :
    Mapping.find? name d.toMapping =
      Mapping.find? name ({ d with pageNo := none, pageSize := none } : Pagination).toMapping := by
  rcases d with ⟨_ | _, _ | _, sort, mark⟩ <;>
    simp [toMapping, Mapping.find?, Mapping.lookup?, Value.sameText, hno, hsize]

theorem AgreesBut.keys_eq {filled : String → Prop} {p q : Value} {d e : Pagination}
    (h : AgreesBut filled p q d e) : Mapping.keys d.toMapping = Mapping.keys e.toMapping := by
  rw [keys_toMapping, keys_toMapping, h.pageNo.isSome_eq, h.pageSize.isSome_eq, h.sort,
    h.sortDefault]

theorem AgreesBut.find? {filled : String → Prop} {p q : Value} {d e : Pagination}
    (h : AgreesBut filled p q d e) (name : String) :
    AgreeUnless (filled name) p.plain q.plain (Mapping.find? name d.toMapping)
      (Mapping.find? name e.toMapping) := by
  by_cases hno : name = FieldName.pageNo
  · rw [hno, d.find?_page_toMapping.1, e.find?_page_toMapping.1]
    exact h.pageNo.map Value.plain
  · by_cases hsize : name = FieldName.pageSize
    · rw [hsize, d.find?_page_toMapping.2, e.find?_page_toMapping.2]
      exact h.pageSize.map Value.plain
    · refine .inl ?_
      rw [find?_toMapping_of_ne hno hsize, find?_toMapping_of_ne hno hsize e, h.sort,
        h.sortDefault]

end Pagination

/-! ## Two runs -/

/-- Two results agree, but for the page fields that a fallback fills. -/
structure ResultsAgreeBut (filled : String → Prop) (p q : Value) (result other : Mapping Value) :
    Prop where
  keys : Mapping.keys result = Mapping.keys other
  /-- the filter and all that the configuration passed through -/
  erase : Mapping.erase (.text FieldName.pagination) result =
    Mapping.erase (.text FieldName.pagination) other
  /-- both have a pagination, with the same fields in the same order, or neither has one -/
  pagination : Option.Rel (fun part part' => ∃ fields fields', part = .mapping fields ∧
      part' = .mapping fields' ∧ Mapping.keys fields = Mapping.keys fields' ∧
      ∀ name, AgreeUnless (filled name) p.plain q.plain (Mapping.find? name fields)
        (Mapping.find? name fields'))
    (Mapping.find? FieldName.pagination result) (Mapping.find? FieldName.pagination other)

theorem assemble_agreesBut {filled : String → Prop} {p q : Value} {d e : Option Pagination}
    (h : Option.Rel (Pagination.AgreesBut filled p q) d e) (filter : Mapping Value) (cfg : Config) :
    ResultsAgreeBut filled p q (assemble filter cfg d) (assemble filter cfg e) := by
  have hfind := find?_pagination_assemble filter cfg
  cases h with
  | none => exact ⟨rfl, rfl, by rw [hfind]; exact .none⟩
  | some h =>
      constructor
      · simp only [assemble, Mapping.keys_put]
      · simp only [assemble, Mapping.erase_put_self]
      · rw [hfind, hfind]
        exact .some ⟨_, _, rfl, rfl, h.keys_eq, h.find?⟩

/-- **What the fallback reaches.** A request that has a result under one fallback has one under any
other, with the same reports. The two agree on everything but the page fields that the fallback
fills, each of which has the fallback of its run: the filter, the sort, and the page number and size
that the request, a default or the configuration gives are the same. -/
theorem compile_fallback_agrees {s : Schema} {p : Value} {request : Request} {cfg : Config}
    {result : Mapping Value} (h : (compile s p request cfg).result = .ok result) (q : Value) :
    ∃ other built, (compile s q request cfg).result = .ok other ∧
      (compile s q request cfg).diagnostics = (compile s p request cfg).diagnostics ∧
      s.build cfg request = .ok built ∧
      ResultsAgreeBut (Fills built.listed cfg) p q result other := by
  obtain ⟨filled, defaulted, built, d, hgather, hsettle, hlisted, hd, rfl⟩ := compile_directive h
  obtain ⟨e, he, hagrees⟩ := Pagination.ofQuery_agreesBut hlisted hd q
  have hbuild : s.build cfg request = .ok built := by
    unfold Schema.build
    rw [hgather]
    exact hsettle
  rw [compile_eq_of_stages hgather hsettle hd, compile_eq_of_stages hgather hsettle he]
  exact ⟨_, built, rfl, rfl, hbuild, assemble_agreesBut hagrees _ cfg⟩

/-- A configuration whose pagination section is empty. -/
def openConfig : Config := [(.text "pagination", .mapping [])]

/-- A page of twenty, and the number that the fallback gives it. -/
def openResult (fallback : Value) : Mapping Value :=
  [(.text "query", .mapping []),
    (.text "pagination", .mapping [(.text "page_no", fallback), (.text "page_size", .int 20)])]

/-- The page size is requested, and the page number is filled. -/
theorem openConfig_agrees :
    (compile {} (.int 1) [("page_size", .text "20")] openConfig).result =
      .ok (openResult (.int 1)) ∧
    ∃ other built, (compile {} (.int 7) [("page_size", .text "20")] openConfig).result = .ok other ∧
      (compile {} (.int 7) [("page_size", .text "20")] openConfig).diagnostics =
        (compile {} (.int 1) [("page_size", .text "20")] openConfig).diagnostics ∧
      ({} : Schema).build openConfig [("page_size", .text "20")] = .ok built ∧
      ResultsAgreeBut (Fills built.listed openConfig) (.int 1) (.int 7) (openResult (.int 1))
        other := by
  have h : (compile {} (.int 1) [("page_size", .text "20")] openConfig).result =
      .ok (openResult (.int 1)) := by rfl
  exact ⟨h, compile_fallback_agrees h (.int 7)⟩

/-- The fallback does not reach the page size only: here it is the page number. -/
theorem not_fallback_pageSize_only :
    ¬∀ (s : Schema) (p q : Value) (request : Request) (cfg : Config)
      (result other fields fields' : Mapping Value),
      (compile s p request cfg).result = .ok result →
      (compile s q request cfg).result = .ok other →
      Mapping.find? FieldName.pagination result = some (.mapping fields) →
      Mapping.find? FieldName.pagination other = some (.mapping fields') →
      ∀ name, name ≠ FieldName.pageSize →
        Mapping.find? name fields = Mapping.find? name fields' := by
  intro hall
  have hsame := hall {} (.int 1) (.int 7) [("page_size", .text "20")] openConfig
    (openResult (.int 1)) (openResult (.int 7)) _ _ rfl rfl rfl rfl FieldName.pageNo (by decide)
  exact nomatch hsame

end QueryFilter
