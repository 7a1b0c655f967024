import QueryFilter.Proofs.Defaults

/-!
# QueryFilter.Proofs.Compiling

One field's way through a request: what is gathered for it, its default, its conflicts, and the
entry that the filter of the result holds for it.

* `Filters`: a result's filter.
* `compile_result`: the result as it comes of the contributions; `compile_stages`, `compile_inv`: the
  stages of a request that has one; `compile_eq_of_stages`, `compile_of_stages`: the result and the
  reports of stages, and of those that report nothing.
* `allAt_criteria_of_settle`, `find?_filterOf`, `filters_assemble`: the later stages, seen at one
  name.
* `exists_settle`: a matrix can be settled where each of its fields can.
* `mem_filterOf_settle`: the later stages, seen from an entry of the filter.
-/

namespace QueryFilter

/-- The filter of a result. -/
def Filters (result filter : Mapping Value) : Prop :=
  Mapping.find? FieldName.query result = some (.mapping filter)

/-! ## The result's parts -/

namespace Mapping

/-- Setting keys one after the other leaves alone what is held under a name that is not among
them. -/
theorem find?_foldl_put {name : String} {entries : Mapping Value} (h : find? name entries = none)
    (m : Mapping Value) :
    find? name (entries.foldl (fun m e => put e.1 e.2 m) m) = find? name m := by
  induction entries generalizing m with
  | nil => rfl
  | cons e rest ih =>
      obtain ⟨k, v⟩ := e
      have hk : k ≠ .text name := by
        intro heq
        subst heq
        rw [find?_eq_head?_allAt, allAt_cons_self] at h
        exact nomatch h
      rw [find?_eq_head?_allAt, allAt_cons_of_ne hk, ← find?_eq_head?_allAt] at h
      rw [List.foldl_cons, ih h, find?_put_of_ne hk]

theorem find?_erase_of_ne {name other : String} (h : name ≠ other) (m : Mapping Value) :
    find? name (erase (.text other) m) = find? name m := by
  have hkeep : (!(Value.text other == Value.text name)) = true := by
    rw [Bool.not_eq_true', Bool.eq_false_iff]
    exact fun he => h (Value.text.inj (Value.text_beq_iff.mp he))
  rw [find?_eq_head?_allAt, find?_eq_head?_allAt]
  exact congrArg List.head?
    (allAt_filter_key (p := fun key => !(Value.text other == key)) hkeep m)

end Mapping

/-- The filter is in the result, unless the configuration brings a field of its name. -/
theorem filters_assemble {filter : Mapping Value} {cfg : Config}
    (hcfg : Mapping.find? FieldName.query cfg = none) (pagination : Option Pagination) :
    Filters (assemble filter cfg pagination) filter := by
  have hne : FieldName.query ≠ FieldName.pagination := by decide
  have hfields : Mapping.find? FieldName.query
      (cfg.foldl (fun m e => Mapping.put e.1 e.2 m) [(.text FieldName.query, .mapping filter)]) =
        some (.mapping filter) := by
    rw [Mapping.find?_foldl_put hcfg, Mapping.find?_eq_head?_allAt, Mapping.allAt_cons_self,
      List.head?_cons]
  unfold Filters assemble
  cases pagination with
  | none => simpa only [Mapping.find?_erase_of_ne hne] using hfields
  | some p =>
      simpa only [Mapping.find?_put_of_ne (Value.text_ne_of_ne hne.symm)] using hfields

theorem allAt_filterOf {name : String} (h : FieldName.isReserved (.text name) = false)
    (query : Mapping Value) : Mapping.allAt name (filterOf query) = Mapping.allAt name query :=
  Mapping.allAt_filter_key (p := fun key => !FieldName.isReserved key) (by simp [h]) query

theorem find?_filterOf {name : String} (h : FieldName.isReserved (.text name) = false)
    (query : Mapping Value) : Mapping.find? name (filterOf query) = Mapping.find? name query := by
  rw [Mapping.find?_eq_head?_allAt, Mapping.find?_eq_head?_allAt, allAt_filterOf h]

theorem isSort_eq_false_of_isReserved {name : Value} (h : FieldName.isReserved name = false) :
    FieldName.isSort name = false := by
  rw [FieldName.isReserved, Bool.or_eq_false_iff] at h
  exact h.1

/-! ## Settling -/

/-- The criteria of a field as they stand in a filter, if there are any. -/
def Accumulator.criteria? (a : Accumulator) : Option Value :=
  if a.criteria.isEmpty then none else some (.mapping a.criteria)

/-- The entry that a filter holds for a field for which these values were gathered. -/
def Accumulator.shown? (name : Value) (a : Accumulator) : Option Value :=
  (a.settle name).1.criteria?

namespace Matrix

theorem settleField_of_not_sort (s : Schema) (cfg : Config) {name : Value}
    (h : FieldName.isSort name = false) (a : Accumulator) :
    settleField s cfg name a =
      ⟨(a.settle name).2,
        .ok (if (a.settle name).1.isEmpty then none else some (a.settle name).1)⟩ := by
  simp only [settleField]
  simp [h, Logged.report]

theorem criteria_eq_filterMap (m : Matrix) :
    m.criteria = m.filterMap fun e => e.2.criteria?.map (e.1, ·) := by
  unfold criteria
  congr 1
  funext e
  unfold Accumulator.criteria?
  dsimp only
  split <;> rfl

theorem allAt_criteria (name : String) (m : Matrix) :
    Mapping.allAt name m.criteria = (Mapping.allAt name m).filterMap Accumulator.criteria? := by
  rw [criteria_eq_filterMap]
  exact Mapping.allAt_filterMap name (fun _ a => a.criteria?) m

/-- The criteria of a field that stands in a matrix once, or not at all. -/
theorem allAt_criteria_of_allAt {name : String} {m : Matrix} {a : Option Accumulator}
    (h : Mapping.allAt name m = a.toList) :
    Mapping.allAt name m.criteria = (a.bind Accumulator.criteria?).toList := by
  rw [allAt_criteria, h]
  cases a with
  | none => rfl
  | some a => cases hshown : a.criteria? <;> simp [hshown]

/-- Settling settles each field by itself and drops those that are left without a value. -/
theorem allAt_settle {s : Schema} {cfg : Config} (name : String) {m settled : Matrix}
    (h : (m.settle s cfg).result = .ok settled) :
    ∃ kept, (Mapping.allAt name m).mapM (fun a => (settleField s cfg (.text name) a).result) =
        .ok kept ∧
      Mapping.allAt name settled = kept.filterMap id := by
  induction m generalizing settled with
  | nil =>
      obtain rfl : [] = settled := by simpa [settle] using h
      exact ⟨[], rfl, rfl⟩
  | cons e rest ih =>
      obtain ⟨k, a⟩ := e
      rw [settle] at h
      obtain ⟨kept, hkept, h⟩ := Logged.result_bind_ok h
      by_cases hk : k = .text name
      · -- an entry under the name: it is settled in its place, or goes
        subst hk
        rw [Mapping.allAt_cons_self, List.mapM_cons, hkept]
        cases kept with
        | none =>
            obtain ⟨more, hmore, hall⟩ := ih h
            refine ⟨none :: more, ?_, by simpa using hall⟩
            rw [hmore]
            rfl
        | some b =>
            obtain ⟨tail, htail, h⟩ := Logged.result_bind_ok h
            obtain rfl := Except.ok.inj h
            obtain ⟨more, hmore, hall⟩ := ih htail
            refine ⟨some b :: more, ?_, by simpa using hall⟩
            rw [hmore]
            rfl
      · -- an entry under another key goes unseen
        rw [Mapping.allAt_cons_of_ne hk]
        cases kept with
        | none => exact ih h
        | some b =>
            obtain ⟨tail, htail, h⟩ := Logged.result_bind_ok h
            obtain rfl := Except.ok.inj h
            rw [Mapping.allAt_cons_of_ne hk]
            exact ih htail

/-- A field that is there once is there once or not at all, as it was settled. -/
theorem allAt_settle_singleton {s : Schema} {cfg : Config} {name : String} {m settled : Matrix}
    (h : (m.settle s cfg).result = .ok settled) {a : Accumulator} (ha : Mapping.allAt name m = [a]) :
    ∃ kept, (settleField s cfg (.text name) a).result = .ok kept ∧
      Mapping.allAt name settled = kept.toList := by
  obtain ⟨all, hall, hsettled⟩ := allAt_settle name h
  rw [ha, List.mapM_cons] at hall
  obtain ⟨kept, hkept, hall⟩ := Except.bind_eq_ok hall
  obtain rfl := Except.ok.inj hall
  refine ⟨kept, hkept, ?_⟩
  rw [hsettled]
  cases kept <;> rfl

theorem allAt_settle_of_nil {s : Schema} {cfg : Config} {name : String} {m settled : Matrix}
    (h : (m.settle s cfg).result = .ok settled) (hm : Mapping.allAt name m = []) :
    Mapping.allAt name settled = [] := by
  obtain ⟨all, hall, hsettled⟩ := allAt_settle name h
  rw [hm] at hall
  obtain rfl := Except.ok.inj hall
  exact hsettled

/-- Settling does not make a field occur more than once. -/
theorem occursOnce_settle {s : Schema} {cfg : Config} {name : String} {m settled : Matrix}
    (h : (m.settle s cfg).result = .ok settled) (hm : Mapping.OccursOnce name m) :
    Mapping.OccursOnce name settled := by
  obtain ⟨a, ha⟩ := hm
  cases a with
  | none => exact ⟨none, allAt_settle_of_nil h ha⟩
  | some a =>
      obtain ⟨kept, -, hkept⟩ := allAt_settle_singleton h ha
      exact ⟨kept, hkept⟩

/-- A field that is not the sort keeps what does not conflict. -/
theorem allAt_settle_of_not_sort {s : Schema} {cfg : Config} {name : String}
    (hname : FieldName.isSort (.text name) = false) {m settled : Matrix}
    (h : (m.settle s cfg).result = .ok settled) :
    Mapping.allAt name settled =
      (Mapping.allAt name m).filterMap fun a =>
        if (a.settle (.text name)).1.isEmpty then none else some (a.settle (.text name)).1 := by
  obtain ⟨kept, hkept, hall⟩ := allAt_settle name h
  simp only [settleField_of_not_sort s cfg hname] at hkept
  obtain rfl := Except.ok.inj (List.mapM_pure.symm.trans hkept)
  rw [hall, List.filterMap_map]
  rfl

/-- The entries of a settled matrix, at a field that is not the sort. -/
theorem allAt_criteria_of_settle {s : Schema} {cfg : Config} {name : String}
    (hname : FieldName.isSort (.text name) = false) {m settled : Matrix}
    (h : (m.settle s cfg).result = .ok settled) :
    Mapping.allAt name settled.criteria =
      (Mapping.allAt name m).filterMap (Accumulator.shown? (.text name)) := by
  rw [allAt_criteria, allAt_settle_of_not_sort hname h, List.filterMap_filterMap]
  congr 1
  funext a
  simp only [Accumulator.shown?]
  by_cases he : (a.settle (.text name)).1.isEmpty = true
  · rw [if_pos he, Option.bind_none]
    rw [Accumulator.isEmpty_iff_criteria_eq_nil] at he
    simp [Accumulator.criteria?, he]
  · rw [if_neg he, Option.bind_some]

/-- A matrix can be settled where each of its fields can. -/
theorem exists_settle {s : Schema} {cfg : Config} {m : Matrix}
    (h : ∀ e ∈ m, ∃ kept, (settleField s cfg e.1 e.2).result = .ok kept) :
    ∃ settled, (m.settle s cfg).result = .ok settled := by
  induction m with
  | nil => exact ⟨[], rfl⟩
  | cons e rest ih =>
      obtain ⟨kept, hkept⟩ := h e List.mem_cons_self
      obtain ⟨more, hmore⟩ := ih fun e he => h e (List.mem_cons_of_mem _ he)
      rw [settle, Logged.result_bind, hkept]
      cases kept with
      | none => exact ⟨more, hmore⟩
      | some b =>
          refine ⟨(e.1, b) :: more, ?_⟩
          show (settle s cfg rest >>= fun more => pure ((e.1, b) :: more)).result = _
          rw [Logged.result_bind, hmore]
          rfl

/-- Settling a matrix of fields that are left as they are, and reported nothing of, leaves it as it
is. -/
theorem settle_eq_self {s : Schema} {cfg : Config} {m : Matrix}
    (h : ∀ e ∈ m, settleField s cfg e.1 e.2 = ⟨[], .ok (some e.2)⟩) :
    m.settle s cfg = ⟨[], .ok m⟩ := by
  induction m with
  | nil => rfl
  | cons e rest ih =>
      rw [settle, h e List.mem_cons_self, ih fun e' he => h e' (List.mem_cons_of_mem _ he)]
      rfl

/-- What is left of a settled matrix was settled from an entry of the matrix. -/
theorem mem_of_mem_settle {s : Schema} {cfg : Config} {m settled : Matrix}
    (h : (m.settle s cfg).result = .ok settled) {e : Value × Accumulator} (he : e ∈ settled) :
    ∃ a, (e.1, a) ∈ m ∧ (settleField s cfg e.1 a).result = .ok (some e.2) := by
  induction m generalizing settled with
  | nil =>
      obtain rfl := Except.ok.inj h
      exact nomatch he
  | cons first rest ih =>
      obtain ⟨k, a⟩ := first
      rw [settle] at h
      obtain ⟨kept, hkept, h⟩ := Logged.result_bind_ok h
      have hrest : ∀ more, (settle s cfg rest).result = .ok more → e ∈ more →
          ∃ b, (e.1, b) ∈ (k, a) :: rest ∧ (settleField s cfg e.1 b).result = .ok (some e.2) := by
        intro more hmore hmem
        obtain ⟨b, hb, hsettled⟩ := ih hmore hmem
        exact ⟨b, List.mem_cons_of_mem _ hb, hsettled⟩
      cases kept with
      | none => exact hrest settled h he
      | some b =>
          obtain ⟨more, hmore, h⟩ := Logged.result_bind_ok h
          obtain rfl := Except.ok.inj h
          rcases List.mem_cons.mp he with rfl | he
          · exact ⟨a, List.mem_cons_self, hkept⟩
          · exact hrest more hmore he

/-- What criteria show under a name are those of an entry under the name, or nothing. -/
theorem exists_find?_criteria (name : String) (m : Matrix) :
    ∃ b, (b = .empty ∨ b ∈ Mapping.allAt name m) ∧
      Mapping.find? name m.criteria = b.criteria? := by
  rw [Mapping.find?_eq_head?_allAt, allAt_criteria]
  cases hshown : ((Mapping.allAt name m).filterMap Accumulator.criteria?).head? with
  | none => exact ⟨.empty, .inl rfl, rfl⟩
  | some v =>
      obtain ⟨b, hb, hv⟩ := List.mem_filterMap.mp (List.mem_of_mem_head? hshown)
      exact ⟨b, .inr hb, hv.symm⟩

theorem mem_criteria {m : Matrix} {e : Value × Value} :
    e ∈ m.criteria ↔ ∃ a, (e.1, a) ∈ m ∧ a.criteria? = some e.2 := by
  rw [criteria_eq_filterMap, List.mem_filterMap]
  constructor
  · intro hgiven
    obtain ⟨⟨k, a⟩, ha, he⟩ := hgiven
    obtain ⟨v, hv, rfl⟩ := Option.map_eq_some_iff.mp he
    exact ⟨a, ha, hv⟩
  · intro hgiven
    obtain ⟨a, ha, he⟩ := hgiven
    exact ⟨(e.1, a), ha, by rw [he]; rfl⟩

/-- Each entry of a filter has a name that is not reserved and shows what settling left of an entry
of the matrix. -/
theorem mem_filterOf_settle {s : Schema} {cfg : Config} {m settled : Matrix}
    (h : (m.settle s cfg).result = .ok settled) {e : Value × Value}
    (he : e ∈ filterOf settled.criteria) :
    FieldName.isReserved e.1 = false ∧ ∃ a, (e.1, a) ∈ m ∧ a.shown? e.1 = some e.2 := by
  obtain ⟨hmem, hreserved⟩ := List.mem_filter.mp he
  rw [Bool.not_eq_true'] at hreserved
  obtain ⟨b, hb, hshown⟩ := mem_criteria.mp hmem
  obtain ⟨a, ha, hsettled⟩ := mem_of_mem_settle h hb
  refine ⟨hreserved, a, ha, ?_⟩
  rw [settleField_of_not_sort s cfg (isSort_eq_false_of_isReserved hreserved)] at hsettled
  have hkept := Except.ok.inj hsettled
  split at hkept
  next => exact nomatch hkept
  next =>
    obtain rfl := Option.some.inj hkept
    exact hshown

end Matrix

/-! ## Fields that occur once -/

theorem occursOnce_gathered (name : String) (cs : List Contribution) :
    Mapping.OccursOnce name (cs.foldl Matrix.grow []) := by
  have h := Matrix.allAt_gathered name cs
  split at h
  next => exact ⟨none, h⟩
  next => exact ⟨some _, h⟩

/-- No field occurs twice, whichever defaults are written. -/
theorem occursOnce_filled {cfg : Config} {template : Mapping Value} {cs : List Contribution}
    {filled : Matrix} {defaulted : List Value}
    (h : (fillDefaults cfg template (cs.foldl Matrix.grow [])).toLogged.result =
      .ok (filled, defaulted)) (name : String) : Mapping.OccursOnce name filled := by
  rcases fillDefaults_at h name with ⟨-, hfilled⟩ | ⟨-, -, a, -, hfilled⟩
  · obtain ⟨a, ha⟩ := occursOnce_gathered name cs
    exact ⟨a, hfilled.trans ha⟩
  · exact ⟨some a, hfilled⟩

/-! ## The stages of a request -/

/-- Gathering is a fold over contributions, into which the defaults are filled. -/
theorem gatherRequest_inv {s : Schema} {cfg : Config} {request : Request} {filled : Matrix}
    {defaulted : List Value}
    (h : (gatherRequest s cfg request).result = .ok (filled, defaulted)) :
    ∃ cs, (s.contributions cfg request).result = .ok cs ∧
      (fillDefaults cfg (s.template.getD []) (cs.foldl Matrix.grow [])).toLogged.result =
        .ok (filled, defaulted) := by
  obtain ⟨m, hm, hfill⟩ := Logged.result_bind_ok h
  rw [gatherPairs_result] at hm
  cases hcs : (s.contributions cfg request).result with
  | error fault =>
      rw [hcs] at hm
      exact nomatch hm
  | ok cs =>
      rw [hcs] at hm
      obtain rfl := Except.ok.inj hm
      exact ⟨cs, rfl, hfill⟩

/-- The result of a request comes of what its pairs contribute, stage by stage, each of which may
fail. -/
theorem compile_result (s : Schema) (fallback : Value) (request : Request) (cfg : Config) :
    (compile s fallback request cfg).result =
      (s.contributions cfg request).result >>= fun cs =>
      (fillDefaults cfg (s.template.getD []) (cs.foldl Matrix.grow [])).toLogged.result >>=
        fun filled =>
      (filled.1.settle s cfg).result >>= fun settled =>
      Pagination.ofQuery settled.criteria cfg (filled.2.any FieldName.isSort) fallback >>=
        fun pagination =>
      .ok (assemble (filterOf settled.criteria) cfg pagination) := by
  unfold compile gatherRequest
  simp only [Logged.result_bind, gatherPairs_result]
  cases (s.contributions cfg request).result with
  | error fault => rfl
  | ok cs => rfl

/-- The stages of a request that has a result, down to its pagination. -/
theorem compile_stages {s : Schema} {fallback : Value} {request : Request} {cfg : Config}
    {result : Mapping Value} (h : (compile s fallback request cfg).result = .ok result) :
    ∃ filled defaulted settled pagination,
      (gatherRequest s cfg request).result = .ok (filled, defaulted) ∧
      (filled.settle s cfg).result = .ok settled ∧
      Pagination.ofQuery settled.criteria cfg (defaulted.any FieldName.isSort) fallback =
        .ok pagination ∧
      result = assemble (filterOf settled.criteria) cfg pagination := by
  obtain ⟨⟨filled, defaulted⟩, hgather, h⟩ := Logged.result_bind_ok h
  obtain ⟨settled, hsettle, h⟩ := Logged.result_bind_ok h
  obtain ⟨pagination, hpagination, h⟩ := Logged.result_bind_ok h
  exact ⟨filled, defaulted, settled, pagination, hgather, hsettle, hpagination,
    (Except.ok.inj h).symm⟩

/-- The result of a request and its reports, from the stages. -/
theorem compile_eq_of_stages {s : Schema} {fallback : Value} {request : Request} {cfg : Config}
    {filled settled : Matrix} {defaulted : List Value} {pagination : Option Pagination}
    (hgather : (gatherRequest s cfg request).result = .ok (filled, defaulted))
    (hsettle : (filled.settle s cfg).result = .ok settled)
    (hpagination : Pagination.ofQuery settled.criteria cfg (defaulted.any FieldName.isSort) fallback =
      .ok pagination) :
    compile s fallback request cfg =
      ⟨(gatherRequest s cfg request).diagnostics ++ (filled.settle s cfg).diagnostics,
        .ok (assemble (filterOf settled.criteria) cfg pagination)⟩ := by
  unfold compile
  cases hg : gatherRequest s cfg request with
  | mk gathered result =>
      rw [hg] at hgather
      obtain rfl : result = .ok (filled, defaulted) := hgather
      cases ht : filled.settle s cfg with
      | mk reported result =>
          rw [ht] at hsettle
          obtain rfl : result = .ok settled := hsettle
          rw [Logged.bind_ok]
          dsimp only
          rw [ht, Logged.bind_ok, hpagination]
          simp

/-- The result of a request whose stages report nothing. -/
theorem compile_of_stages {s : Schema} {fallback : Value} {request : Request} {cfg : Config}
    {m settled : Matrix} {defaulted : List Value} {pagination : Option Pagination}
    (hgather : gatherRequest s cfg request = ⟨[], .ok (m, defaulted)⟩)
    (hsettle : m.settle s cfg = ⟨[], .ok settled⟩)
    (hpagination : Pagination.ofQuery settled.criteria cfg (defaulted.any FieldName.isSort) fallback =
      .ok pagination) :
    compile s fallback request cfg =
      ⟨[], .ok (assemble (filterOf settled.criteria) cfg pagination)⟩ := by
  rw [compile_eq_of_stages (by rw [hgather]) (by rw [hsettle]) hpagination, hgather, hsettle]
  rfl

/-- The stages of a request that has a result, up to its filter. -/
theorem compile_inv {s : Schema} {fallback : Value} {request : Request} {cfg : Config}
    {result : Mapping Value} (h : (compile s fallback request cfg).result = .ok result) :
    ∃ cs filled settled pagination,
      (s.contributions cfg request).result = .ok cs ∧
      (s.template.getD []).foldlM (fillDefault cfg) (cs.foldl Matrix.grow []) = .ok filled ∧
      (filled.settle s cfg).result = .ok settled ∧
      result = assemble (filterOf settled.criteria) cfg pagination := by
  obtain ⟨filled, defaulted, settled, pagination, hgather, hsettle, -, hresult⟩ := compile_stages h
  obtain ⟨cs, hcs, hfill⟩ := gatherRequest_inv hgather
  refine ⟨cs, filled, settled, pagination, hcs, ?_, hsettle, hresult⟩
  rw [← fillDefaults_result, hfill]
  rfl

end QueryFilter
