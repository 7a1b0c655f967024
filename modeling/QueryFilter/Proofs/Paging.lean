import QueryFilter.Proofs.Compiling
import QueryFilter.Proofs.Settling

/-!
# QueryFilter.Proofs.Paging

Which parts a pagination has, and that there is one.

* `equalTo_eq`, `equalTo_of_find?`: what a query holds for a field under equality.
* `Pagination.ofQuery_eq`: the steps to a pagination.
* `Pagination.isSome_parts`: the parts that are set are those that the query holds something for.
* `Pagination.isSome_ofQuery_iff`, `Pagination.sort_ofQuery`: when there is a pagination under any
  configuration, and where its sort comes from.
* `Matrix.ofSort`, `Pagination.ofQuery_ofSort`: the matrix and the directive of a sort alone.
* `Pagination.exists_ofQuery`: a query whose sort has a mapping has a pagination, or asks for none.
* `Pagination.pageValue_eq`, `Pagination.page_ofQuery`, `Pagination.find?_page_ofQuery`: the page
  fields of a directive.
* `Pagination.isSome_find?_toMapping`, `find?_pagination_assemble`: where a result shows them.
-/

namespace QueryFilter

/-! ## Values under equality -/

/-- What a query holds for a field under equality is the list that its accumulator holds. -/
theorem equalTo_eq {query : Mapping Value} {field : String} {b : Accumulator}
    (h : Mapping.find? field query = b.criteria?) :
    equalTo query field = .ok (.list (b.eq.getD [])) := by
  have hheld : Mapping.find? Operator.eq.name b.criteria =
      if b.eq.getD [] = [] then none else some (.list (b.eq.getD [])) :=
    (b.find?_criteria .eq).trans (b.held?_collect .eq)
  unfold equalTo Mapping.getOrNull
  rw [h]
  unfold Accumulator.criteria?
  split
  next hempty =>
    rw [List.isEmpty_iff.mp hempty] at hheld
    split at hheld
    next hnone =>
      rw [hnone]
      rfl
    next => exact nomatch hheld
  next =>
    dsimp only [Option.getD_some]
    rw [hheld]
    cases b.eq.getD [] <;> rfl

theorem equalTo_of_find? {query : Mapping Value} {field : String} {b : Accumulator}
    (h : Mapping.find? field query = b.criteria?) :
    ∃ v, equalTo query field = .ok v ∧ v.isTruthy = (b.held? .eq).isSome :=
  ⟨_, equalTo_eq h, (b.isSome_held?_collect .eq).symm⟩

theorem equalTo_of_none {query : Mapping Value} {field : String}
    (h : Mapping.find? field query = none) : equalTo query field = .ok (.list []) := by
  unfold equalTo Mapping.getOrNull
  rw [h]
  rfl

/-! ## A sort alone -/

namespace Matrix

/-- The matrix that lists these values for the sort and holds nothing else. -/
def ofSort (values : List Value) : Matrix :=
  if values.isEmpty then [] else [(.text FieldName.sort, { eq := some values })]

theorem find?_sort_criteria_ofSort (values : List Value) :
    Mapping.find? FieldName.sort (ofSort values).criteria =
      Accumulator.criteria? { eq := some values } := by
  cases values <;> rfl

theorem find?_page_criteria_ofSort (values : List Value) :
    Mapping.find? FieldName.pageNo (ofSort values).criteria = none ∧
      Mapping.find? FieldName.pageSize (ofSort values).criteria = none := by
  cases values <;> exact ⟨rfl, rfl⟩

end Matrix

/-! ## Parts -/

namespace Pagination

theorem pageValue_isSome {query : Mapping Value} {fallback v : Value} {field : String}
    {part : Option Value} (hv : equalTo query field = .ok v)
    (h : pageValue query [] fallback field = .ok part) : part.isSome = v.isTruthy := by
  unfold pageValue at h
  rw [hv] at h
  change (if v.isTruthy = true then _ else _) = _ at h
  split at h
  next htruthy =>
    obtain ⟨w, -, h⟩ := Except.bind_eq_ok h
    obtain rfl := Except.ok.inj h
    rw [htruthy]
    rfl
  next hfalsy =>
    obtain rfl := Except.ok.inj h
    rw [Bool.not_eq_true] at hfalsy
    rw [hfalsy]
    rfl

/-- A sort leaves the page fields alone. -/
theorem page_withSort {p q : Pagination} {requested : Value} {sortDefaulted : Bool}
    {configured : Mapping Value}
    (h : p.withSort requested sortDefaulted configured = .ok q) :
    q.pageNo = p.pageNo ∧ q.pageSize = p.pageSize := by
  unfold withSort at h
  split at h
  next =>
    obtain ⟨m, -, h⟩ := Except.bind_eq_ok h
    obtain rfl := Except.ok.inj h
    exact ⟨rfl, rfl⟩
  next =>
    split at h
    next =>
      obtain rfl := Except.ok.inj h
      exact ⟨rfl, rfl⟩
    next =>
      obtain rfl := Except.ok.inj h
      exact ⟨rfl, rfl⟩

theorem isSome_sort_withSort {p q : Pagination} {requested : Value} {sortDefaulted : Bool}
    (hp : p.sort = none) (h : p.withSort requested sortDefaulted [] = .ok q) :
    q.sort.isSome = requested.isTruthy := by
  unfold withSort at h
  split at h
  next htruthy =>
    obtain ⟨m, -, h⟩ := Except.bind_eq_ok h
    obtain rfl := Except.ok.inj h
    exact htruthy.symm
  next hfalsy =>
    obtain rfl := Except.ok.inj h
    rw [Bool.not_eq_true] at hfalsy
    rw [hfalsy, hp]
    rfl

section Parts

variable {query : Mapping Value} {fallback no size sort : Value}

theorem asksForPage_eq (hno : equalTo query FieldName.pageNo = .ok no)
    (hsize : equalTo query FieldName.pageSize = .ok size) :
    asksForPage query = .ok (no.isTruthy || size.isTruthy) := by
  simp only [asksForPage]
  rw [hno, hsize]
  cases hn : no.isTruthy <;> simp [bind, Except.bind, pure, Except.pure, hn]

/-- A page sets the parts that the query holds something for. Where it asks for no page, it holds
nothing for them. -/
theorem isSome_page_parts (hno : equalTo query FieldName.pageNo = .ok no)
    (hsize : equalTo query FieldName.pageSize = .ok size) {page : Pagination}
    (h : (if no.isTruthy || size.isTruthy then ofPage query [] fallback else pure {}) = .ok page) :
    page.pageNo.isSome = no.isTruthy ∧ page.pageSize.isSome = size.isTruthy ∧ page.sort = none := by
  split at h
  next =>
    unfold ofPage at h
    obtain ⟨v, hv, h⟩ := Except.bind_eq_ok h
    obtain ⟨w, hw, h⟩ := Except.bind_eq_ok h
    obtain rfl := Except.ok.inj h
    exact ⟨pageValue_isSome hno hv, pageValue_isSome hsize hw, rfl⟩
  next hnopage =>
    obtain rfl := Except.ok.inj h
    rw [Bool.not_eq_true, Bool.or_eq_false_iff] at hnopage
    rw [hnopage.1, hnopage.2]
    exact ⟨rfl, rfl, rfl⟩

/-- The steps to a directive, where it is known what the query holds for each reserved field and which
sort is configured. -/
theorem ofQuery_eq {cfg : Config} {configured : Mapping Value}
    (hno : equalTo query FieldName.pageNo = .ok no)
    (hsize : equalTo query FieldName.pageSize = .ok size)
    (hsort : equalTo query FieldName.sort = .ok sort)
    (hconfigured : configuredSort cfg = .ok configured) (sortDefaulted : Bool) :
    ofQuery query cfg sortDefaulted fallback =
      if !(no.isTruthy || size.isTruthy) && !sort.isTruthy && configured.isEmpty then .ok none
      else
        (if no.isTruthy || size.isTruthy then ofPage query cfg fallback else pure {}) >>= fun page =>
          page.withSort sort sortDefaulted configured >>= fun q => pure (some q) := by
  unfold ofQuery
  rw [asksForPage_eq hno hsize, hsort, hconfigured]
  show (if !(no.isTruthy || size.isTruthy) && !sort.isTruthy && configured.isEmpty then _ else _) = _
  congr 1
  cases no.isTruthy || size.isTruthy <;> rfl

/-- The parts that a pagination sets are those that the query holds something for. -/
theorem isSome_parts {sortDefaulted : Bool} {p : Option Pagination}
    (hno : equalTo query FieldName.pageNo = .ok no)
    (hsize : equalTo query FieldName.pageSize = .ok size)
    (hsort : equalTo query FieldName.sort = .ok sort)
    (h : ofQuery query [] sortDefaulted fallback = .ok p) :
    (p.bind Pagination.pageNo).isSome = no.isTruthy ∧
      (p.bind Pagination.pageSize).isSome = size.isTruthy ∧
      (p.bind Pagination.sort).isSome = sort.isTruthy := by
  rw [ofQuery_eq hno hsize hsort rfl, List.isEmpty_nil, Bool.and_true] at h
  split at h
  next hnothing =>
    obtain rfl := Except.ok.inj h
    rw [Bool.and_eq_true, Bool.not_eq_true', Bool.not_eq_true', Bool.or_eq_false_iff] at hnothing
    obtain ⟨⟨hn, hz⟩, hs⟩ := hnothing
    rw [hn, hz, hs]
    exact ⟨rfl, rfl, rfl⟩
  next =>
    obtain ⟨page, hpage, h⟩ := Except.bind_eq_ok h
    obtain ⟨q, hq, h⟩ := Except.bind_eq_ok h
    obtain rfl := Except.ok.inj h
    obtain ⟨hpageNo, hpageSize, hpageSort⟩ := isSome_page_parts hno hsize hpage
    obtain ⟨hqno, hqsize⟩ := page_withSort hq
    rw [Option.bind_some, Option.bind_some, Option.bind_some, hqno, hqsize]
    exact ⟨hpageNo, hpageSize, isSome_sort_withSort hpageSort hq⟩

end Parts

/-! ## Where a directive comes from -/

section Origin

variable {query : Mapping Value} {cfg : Config} {fallback : Value} {no size sort : List Value}
  {sortDefaulted : Bool}

theorem exists_configuredSort {p : Option Pagination}
    (h : ofQuery query cfg sortDefaulted fallback = .ok p) :
    ∃ configured, configuredSort cfg = .ok configured := by
  obtain ⟨hasPage, -, h⟩ := Except.bind_eq_ok h
  obtain ⟨requested, -, h⟩ := Except.bind_eq_ok h
  obtain ⟨configured, hconfigured, -⟩ := Except.bind_eq_ok h
  exact ⟨configured, hconfigured⟩

theorem isTruthy_list (values : List Value) :
    (Value.list values).isTruthy = true ↔ values ≠ [] := by
  cases values <;> simp [Value.isTruthy]

/-- The value of a page field is the last one that the query lists for it, or else the one that stands
in for it. -/
theorem pageValue_eq {field : String} {values : List Value}
    (h : equalTo query field = .ok (.list values)) :
    pageValue query cfg fallback field =
      .ok (values.getLast?.or (unrequestedPageValue cfg fallback field)) := by
  unfold pageValue
  rw [h]
  cases values with
  | nil => rfl
  | cons v rest =>
      have hlast := List.getLast?_eq_some_getLast (List.cons_ne_nil v rest)
      show ((Value.list (v :: rest)).getAt (-1) >>= fun w => pure (some w)) = _
      rw [Value.getAt_neg_one_list hlast, hlast]
      rfl

theorem ofPage_eq (hno : equalTo query FieldName.pageNo = .ok (.list no))
    (hsize : equalTo query FieldName.pageSize = .ok (.list size)) :
    ofPage query cfg fallback = .ok
      { pageNo := no.getLast?.or (unrequestedPageValue cfg fallback FieldName.pageNo)
        pageSize := size.getLast?.or (unrequestedPageValue cfg fallback FieldName.pageSize) } := by
  unfold ofPage
  rw [pageValue_eq hno, pageValue_eq hsize]
  rfl

/-- There is a directive where the query holds something for a reserved field, or a sort is
configured. -/
theorem isSome_ofQuery_iff {p : Option Pagination} {configured : Mapping Value}
    (hno : equalTo query FieldName.pageNo = .ok (.list no))
    (hsize : equalTo query FieldName.pageSize = .ok (.list size))
    (hsort : equalTo query FieldName.sort = .ok (.list sort))
    (hconfigured : configuredSort cfg = .ok configured)
    (h : ofQuery query cfg sortDefaulted fallback = .ok p) :
    p.isSome = true ↔ no ≠ [] ∨ size ≠ [] ∨ sort ≠ [] ∨ configured ≠ [] := by
  rw [ofQuery_eq hno hsize hsort hconfigured] at h
  have hnothing : (!((Value.list no).isTruthy || (Value.list size).isTruthy) &&
      !(Value.list sort).isTruthy && configured.isEmpty) = true ↔
        ¬(no ≠ [] ∨ size ≠ [] ∨ sort ≠ [] ∨ configured ≠ []) := by
    simp [Value.isTruthy, and_assoc]
  split at h
  next hcond =>
    obtain rfl := Except.ok.inj h
    exact ⟨nofun, fun hany => absurd hany (hnothing.mp hcond)⟩
  next hcond =>
    obtain ⟨page, -, h⟩ := Except.bind_eq_ok h
    obtain ⟨q, -, h⟩ := Except.bind_eq_ok h
    obtain rfl := Except.ok.inj h
    rw [hnothing, Decidable.not_not] at hcond
    exact ⟨fun _ => hcond, fun _ => rfl⟩

/-- The page fields alone make no sort. -/
theorem sort_page_eq_none {asks : Bool} {page : Pagination}
    (h : (if asks then ofPage query cfg fallback else pure {}) = .ok page) : page.sort = none := by
  split at h
  next =>
    obtain ⟨_, -, h⟩ := Except.bind_eq_ok h
    obtain ⟨_, -, h⟩ := Except.bind_eq_ok h
    obtain rfl := Except.ok.inj h
    rfl
  next =>
    obtain rfl := Except.ok.inj h
    rfl

/-- The sort of a directive is the one that the query holds, marked as it is known to be, or else the
configured one, which is a default. -/
theorem sort_ofQuery {q : Pagination} {configured : Mapping Value}
    (hno : equalTo query FieldName.pageNo = .ok (.list no))
    (hsize : equalTo query FieldName.pageSize = .ok (.list size))
    (hsort : equalTo query FieldName.sort = .ok (.list sort))
    (hconfigured : configuredSort cfg = .ok configured)
    (h : ofQuery query cfg sortDefaulted fallback = .ok (some q)) :
    (sort ≠ [] → ∃ m, sortMapping sort = .ok m ∧ q.sort = some (some m) ∧
      q.sortDefault = some (some sortDefaulted)) ∧
    (sort = [] → (configured ≠ [] ∧ q.sort = some (some configured) ∧
      q.sortDefault = some (some true)) ∨ (configured = [] ∧ q.sort = none)) := by
  rw [ofQuery_eq hno hsize hsort hconfigured] at h
  split at h
  next => exact nomatch h
  next =>
    obtain ⟨page, hpage, h⟩ := Except.bind_eq_ok h
    obtain ⟨q', hq, h⟩ := Except.bind_eq_ok h
    obtain rfl := Option.some.inj (Except.ok.inj h)
    have hnosort := sort_page_eq_none hpage
    unfold withSort at hq
    split at hq
    next htruthy =>
      rw [isTruthy_list] at htruthy
      obtain ⟨m, hm, hq⟩ := Except.bind_eq_ok hq
      obtain rfl := Except.ok.inj hq
      exact ⟨fun _ => ⟨m, hm, rfl, rfl⟩, fun hnil => absurd hnil htruthy⟩
    next hfalsy =>
      rw [isTruthy_list] at hfalsy
      refine ⟨fun hne => absurd hne hfalsy, fun _ => ?_⟩
      split at hq
      next hne =>
        obtain rfl := Except.ok.inj hq
        exact .inl ⟨by simpa using hne, rfl, rfl⟩
      next hempty =>
        obtain rfl := Except.ok.inj hq
        exact .inr ⟨by simpa using hempty, hnosort⟩

/-- The page fields of a directive, where the query lists something for one of them. -/
theorem page_ofQuery {q : Pagination}
    (hno : equalTo query FieldName.pageNo = .ok (.list no))
    (hsize : equalTo query FieldName.pageSize = .ok (.list size))
    (hsort : equalTo query FieldName.sort = .ok (.list sort)) (hpage : no ≠ [] ∨ size ≠ [])
    (h : ofQuery query cfg sortDefaulted fallback = .ok (some q)) :
    q.pageNo = no.getLast?.or (unrequestedPageValue cfg fallback FieldName.pageNo) ∧
      q.pageSize = size.getLast?.or (unrequestedPageValue cfg fallback FieldName.pageSize) := by
  obtain ⟨configured, hconfigured⟩ := exists_configuredSort h
  have hasks : ((Value.list no).isTruthy || (Value.list size).isTruthy) = true := by
    rw [Bool.or_eq_true, isTruthy_list, isTruthy_list]
    exact hpage
  rw [ofQuery_eq hno hsize hsort hconfigured, hasks, if_pos rfl] at h
  split at h
  next => exact nomatch h
  next =>
    obtain ⟨page, hpage, hsorted⟩ := Except.bind_eq_ok h
    obtain ⟨q', hq, hdone⟩ := Except.bind_eq_ok hsorted
    rw [ofPage_eq hno hsize] at hpage
    obtain rfl := Except.ok.inj hpage
    obtain rfl := Option.some.inj (Except.ok.inj hdone)
    exact page_withSort hq

end Origin

/-! ## Requests that have a directive -/

theorem exists_withSort {values : List Value} (h : ∃ sort, sortMapping values = .ok sort)
    (p : Pagination) (sortDefaulted : Bool) (configured : Mapping Value) :
    ∃ q, p.withSort (.list values) sortDefaulted configured = .ok q := by
  obtain ⟨sort, hsort⟩ := h
  unfold withSort
  split
  next =>
    show ∃ q, (sortMapping values >>= _) = .ok q
    rw [hsort]
    exact ⟨_, rfl⟩
  next => split <;> exact ⟨_, rfl⟩

/-- A query that holds lists under equality has a directive, or asks for none, if there is a mapping
of what it holds for the sort. -/
theorem exists_ofQuery {query : Mapping Value} {no size sort : List Value}
    (hno : equalTo query FieldName.pageNo = .ok (.list no))
    (hsize : equalTo query FieldName.pageSize = .ok (.list size))
    (hsort : equalTo query FieldName.sort = .ok (.list sort))
    (hmapping : ∃ m, sortMapping sort = .ok m) (sortDefaulted : Bool) (fallback : Value) :
    ∃ p, ofQuery query [] sortDefaulted fallback = .ok p := by
  have hpage : ∃ page, (if (Value.list no).isTruthy || (Value.list size).isTruthy then
      ofPage query [] fallback else pure {}) = .ok page := by
    split
    next =>
      exact ⟨_, ofPage_eq hno hsize⟩
    next => exact ⟨_, rfl⟩
  obtain ⟨page, hpage⟩ := hpage
  obtain ⟨q, hq⟩ := exists_withSort hmapping page sortDefaulted []
  rw [ofQuery_eq hno hsize hsort rfl, hpage]
  split
  next => exact ⟨none, rfl⟩
  next =>
    show ∃ p, (page.withSort _ _ _ >>= _) = .ok p
    rw [hq]
    exact ⟨_, rfl⟩

/-- A query without reserved fields asks for no pagination. -/
theorem ofQuery_eq_none {query : Mapping Value} {fallback : Value}
    {sortDefaulted : Bool} (hno : Mapping.find? FieldName.pageNo query = none)
    (hsize : Mapping.find? FieldName.pageSize query = none)
    (hsort : Mapping.find? FieldName.sort query = none) :
    ofQuery query [] sortDefaulted fallback = .ok none := by
  unfold ofQuery asksForPage
  rw [equalTo_of_none hno, equalTo_of_none hsize, equalTo_of_none hsort]
  rfl

/-- The directive of a sort alone is its mapping, and there is none if the sort is empty. -/
theorem ofQuery_ofSort (values : List Value) (sortDefaulted : Bool) (fallback : Value) :
    ofQuery (Matrix.ofSort values).criteria [] sortDefaulted fallback =
      if values.isEmpty then .ok none
      else (sortMapping values).map fun sort =>
        some { sort := some (some sort), sortDefault := some (some sortDefaulted) } := by
  obtain ⟨hno, hsize⟩ := Matrix.find?_page_criteria_ofSort values
  rw [ofQuery_eq (equalTo_of_none hno) (equalTo_of_none hsize)
    (equalTo_eq (Matrix.find?_sort_criteria_ofSort values)) rfl]
  cases values with
  | nil => rfl
  | cons v rest =>
      show ((sortMapping (v :: rest) >>= _) >>= _) = Except.map _ (sortMapping (v :: rest))
      cases sortMapping (v :: rest) <;> rfl

theorem find?_sort_toMapping (p : Pagination) :
    Mapping.find? FieldName.sort p.toMapping =
        p.sort.map (fun sort => (Value.ofOption .mapping sort).plain) ∧
      Mapping.find? sortDefaultField p.toMapping =
        p.sortDefault.map (fun mark => (Value.ofOption .bool mark).plain) := by
  rcases p with ⟨_ | _, _ | _, _ | _, _ | _⟩ <;> exact ⟨rfl, rfl⟩

theorem find?_page_toMapping (p : Pagination) :
    Mapping.find? FieldName.pageNo p.toMapping = p.pageNo.map Value.plain ∧
      Mapping.find? FieldName.pageSize p.toMapping = p.pageSize.map Value.plain := by
  rcases p with ⟨_ | _, _ | _, _ | _, _ | _⟩ <;> exact ⟨rfl, rfl⟩

/-- What a directive shows for a page field, where the query lists something for one of them. -/
theorem find?_page_ofQuery {query : Mapping Value} {cfg : Config} {fallback : Value}
    {sortDefaulted : Bool} {listed : String → List Value} {q : Pagination}
    (hlisted : ∀ name, equalTo query name = .ok (.list (listed name)))
    (hpage : listed FieldName.pageNo ≠ [] ∨ listed FieldName.pageSize ≠ [])
    (h : ofQuery query cfg sortDefaulted fallback = .ok (some q)) {field : String}
    (hfield : field = FieldName.pageNo ∨ field = FieldName.pageSize) :
    Mapping.find? field q.toMapping =
      ((listed field).getLast?.or (unrequestedPageValue cfg fallback field)).map Value.plain := by
  obtain ⟨hno, hsize⟩ := page_ofQuery (hlisted _) (hlisted _) (hlisted _) hpage h
  obtain ⟨hshownNo, hshownSize⟩ := q.find?_page_toMapping
  rcases hfield with rfl | rfl
  · rw [hshownNo, hno]
  · rw [hshownSize, hsize]

theorem isSome_find?_toMapping (p : Pagination) :
    (Mapping.find? FieldName.pageNo p.toMapping).isSome = p.pageNo.isSome ∧
      (Mapping.find? FieldName.pageSize p.toMapping).isSome = p.pageSize.isSome ∧
      (Mapping.find? FieldName.sort p.toMapping).isSome = p.sort.isSome := by
  rcases p with ⟨_ | _, _ | _, _ | _, _ | _⟩ <;> exact ⟨rfl, rfl, rfl⟩

end Pagination

/-- The pagination in a result: that of the configuration does not show through. -/
theorem find?_pagination_assemble (filter : Mapping Value) (cfg : Config) (p : Option Pagination) :
    Mapping.find? FieldName.pagination (assemble filter cfg p) =
      p.map fun p => .mapping p.toMapping := by
  cases p with
  | none => exact Mapping.find?_erase_self _ _
  | some p => exact Mapping.find?_put_self _ _ _

end QueryFilter
