import QueryFilter.Proofs.Compiling

/-!
# QueryFilter.Proofs.Locality

Fields do not influence each other. What a filter says about a field depends on the request's pairs
for that field alone: a request that keeps only those pairs has the same entry for it, however the
other pairs were interleaved with them, whether they were accepted, and which defaults fields get
that are now left out.

* `Schema.isFor`: is a pair for the field?
* `contributionsTo_restrict`: the pairs that are kept contribute to the field what all pairs did.
* `find?_filterOf_congr`: the later stages, in two runs with the same contributions to a field.
* `filter_restrict_eq`: the two filters have the same entry for the field.
-/

namespace QueryFilter

/-! ## Pairs for one field -/

/-- Is the pair for the field, by the name that the schema knows it by? -/
def Schema.isFor (s : Schema) (cfg : Config) (field : String) (pair : String × Value) : Bool :=
  match s.fieldOf cfg pair with
  | .ok name => Value.text field == name
  | .error _ => false

theorem Schema.isFor_of_contribution? {s : Schema} {cfg : Config} {field : String}
    {pair : String × Value} {c : Contribution}
    (h : (s.contribution? cfg pair).result = .ok (some c)) :
    s.isFor cfg field pair = c.isTo field := by
  obtain ⟨d, hname, -⟩ := contribution?_inv h
  rw [Schema.isFor, hname]
  rfl

/-- A pair for another field contributes nothing to the field. -/
theorem contributionsTo_of_not_isFor {s : Schema} {cfg : Config} {field : String}
    {pair : String × Value} (hpair : s.isFor cfg field pair = false) {c : Option Contribution}
    (h : (s.contribution? cfg pair).result = .ok c) : contributionsTo field c.toList = [] := by
  cases c with
  | none => rfl
  | some c =>
      rw [Schema.isFor_of_contribution? h] at hpair
      exact List.filter_eq_nil_iff.mpr fun d hd => by
        rw [List.mem_singleton.mp hd, hpair]
        exact Bool.false_ne_true

/-- The pairs for a field contribute to it what all the pairs do. -/
theorem contributionsTo_restrict {s : Schema} {cfg : Config} (field : String) {request : Request}
    {cs : List Contribution} (h : (s.contributions cfg request).result = .ok cs) :
    ∃ ds, (s.contributions cfg (request.filter (s.isFor cfg field))).result = .ok ds ∧
      contributionsTo field ds = contributionsTo field cs := by
  induction request generalizing cs with
  | nil => exact ⟨cs, h, rfl⟩
  | cons pair rest ih =>
      obtain ⟨c, hc, h⟩ := Logged.result_bind_ok h
      obtain ⟨more, hmore, h⟩ := Logged.result_bind_ok h
      obtain rfl := Except.ok.inj h
      obtain ⟨ds, hds, hto⟩ := ih hmore
      rw [contributionsTo_append, List.filter_cons]
      split
      next =>
        -- the pair is kept, with what it contributes
        refine ⟨c.toList ++ ds, ?_, by rw [contributionsTo_append, hto]⟩
        rw [Schema.contributions, Logged.result_bind, hc]
        show ((s.contributions cfg _ >>= fun more => pure (c.toList ++ more)).result) = _
        rw [Logged.result_bind, hds]
        rfl
      next hpair =>
        rw [Bool.not_eq_true] at hpair
        exact ⟨ds, hds, by rw [contributionsTo_of_not_isFor hpair hc, List.nil_append, hto]⟩

/-! ## Two runs -/

/-- Where two runs contribute the same to a field, their filters have the same entry for it. -/
theorem find?_filterOf_congr {s : Schema} {cfg : Config} {field : String}
    (hfield : FieldName.isReserved (.text field) = false) {cs ds : List Contribution}
    (hto : contributionsTo field cs = contributionsTo field ds) {template : Mapping Value}
    {filled filled' settled settled' : Matrix}
    (hfill : template.foldlM (fillDefault cfg) (cs.foldl Matrix.grow []) = .ok filled)
    (hfill' : template.foldlM (fillDefault cfg) (ds.foldl Matrix.grow []) = .ok filled')
    (hsettle : (filled.settle s cfg).result = .ok settled)
    (hsettle' : (filled'.settle s cfg).result = .ok settled') :
    Mapping.find? field (filterOf settled.criteria) =
      Mapping.find? field (filterOf settled'.criteria) := by
  have hgathered : Mapping.allAt field (cs.foldl Matrix.grow []) =
      Mapping.allAt field (ds.foldl Matrix.grow []) := by
    rw [Matrix.allAt_gathered, Matrix.allAt_gathered, hto]
  have hfilled : Mapping.allAt field filled = Mapping.allAt field filled' :=
    allAt_fillDefaults_congr hgathered hfill hfill'
  have hsort := isSort_eq_false_of_isReserved hfield
  rw [find?_filterOf hfield, find?_filterOf hfield, Mapping.find?_eq_head?_allAt,
    Mapping.find?_eq_head?_allAt, Matrix.allAt_criteria_of_settle hsort hsettle,
    Matrix.allAt_criteria_of_settle hsort hsettle', hfilled]

/-- **Locality of fields.** A request and its pairs for one field have the same entry for the field
in their filters, or neither has one. -/
theorem filter_restrict_eq {s : Schema} {cfg : Config} {field : String}
    (hfield : FieldName.isReserved (.text field) = false)
    (hcfg : Mapping.find? FieldName.query cfg = none) {fallback : Value} {request : Request}
    {result result' : Mapping Value} (h : (compile s fallback request cfg).result = .ok result)
    (h' : (compile s fallback (request.filter (s.isFor cfg field)) cfg).result = .ok result') :
    ∃ filter filter', Filters result filter ∧ Filters result' filter' ∧
      Mapping.find? field filter = Mapping.find? field filter' := by
  obtain ⟨cs, filled, settled, p, hcs, hfill, hsettle, rfl⟩ := compile_inv h
  obtain ⟨ds, filled', settled', p', hds, hfill', hsettle', rfl⟩ := compile_inv h'
  refine ⟨_, _, filters_assemble hcfg p, filters_assemble hcfg p', ?_⟩
  obtain ⟨ds', hds', hto⟩ := contributionsTo_restrict field hcs
  obtain rfl : ds' = ds := Except.ok.inj (hds'.symm.trans hds)
  exact find?_filterOf_congr hfield hto.symm hfill hfill' hsettle hsettle'

/-- A stock with an owner and a default, in which callers may write `cost` for the price. -/
def stockSchema : Schema where
  template := some
    [(.text "price", .mapping []),
      (.text "status", .mapping [(.text "default", .text "open")]),
      (.text "owner", .mapping [(.text "read_only", .bool true), (.text "default", .int 7)])]
  rename := some fun name _ => .ok (if name == .text "cost" then .text "price" else name)

/-- Prices in two spellings among pairs that are rejected, and bounds on the status that have no
common order, which keep its default away. -/
def stockRequest : Request :=
  [("cost>5", .text ""), ("status>x|1", .text ""), ("owner", .text "8"), ("price<", .text "9|8"),
    ("color", .text "red"), ("price!", .text "7|7")]

/-- What both results say about the price. -/
def priceEntry : Value × Value :=
  (.text "price",
    .mapping [(.text "ne", .list [.int 7]), (.text "gt", .int 5), (.text "lte", .int 8)])

theorem filter_price_eq :
    stockRequest.filter (stockSchema.isFor [] "price") =
      [("cost>5", .text ""), ("price<", .text "9|8"), ("price!", .text "7|7")] ∧
    (compile stockSchema (.int 1) stockRequest []).result =
      .ok [(.text "query", .mapping
        [priceEntry, (.text "owner", .mapping [(.text "eq", .list [.int 7])])])] ∧
    (compile stockSchema (.int 1) (stockRequest.filter (stockSchema.isFor [] "price")) []).result =
      .ok [(.text "query", .mapping
        [priceEntry, (.text "status", .mapping [(.text "eq", .list [.text "open"])]),
          (.text "owner", .mapping [(.text "eq", .list [.int 7])])])] ∧
    ∃ filter filter',
      Filters [(.text "query", .mapping
        [priceEntry, (.text "owner", .mapping [(.text "eq", .list [.int 7])])])] filter ∧
      Filters [(.text "query", .mapping
        [priceEntry, (.text "status", .mapping [(.text "eq", .list [.text "open"])]),
          (.text "owner", .mapping [(.text "eq", .list [.int 7])])])] filter' ∧
      Mapping.find? "price" filter = Mapping.find? "price" filter' := by
  have hkept : stockRequest.filter (stockSchema.isFor [] "price") =
      [("cost>5", .text ""), ("price<", .text "9|8"), ("price!", .text "7|7")] := by rfl
  have h : (compile stockSchema (.int 1) stockRequest []).result =
      .ok [(.text "query", .mapping
        [priceEntry, (.text "owner", .mapping [(.text "eq", .list [.int 7])])])] := by
    have hread : (stockSchema.contributions [] stockRequest).result =
        .ok [⟨.text "price", .gt, [.int 5]⟩, ⟨.text "status", .gt, [.text "x", .int 1]⟩,
          ⟨.text "price", .lte, [.int 9, .int 8]⟩, ⟨.text "price", .ne, [.int 7, .int 7]⟩] := by rfl
    rw [compile_result, hread]
    rfl
  have h' : (compile stockSchema (.int 1)
      (stockRequest.filter (stockSchema.isFor [] "price")) []).result =
      .ok [(.text "query", .mapping
        [priceEntry, (.text "status", .mapping [(.text "eq", .list [.text "open"])]),
          (.text "owner", .mapping [(.text "eq", .list [.int 7])])])] := by
    have hread : (stockSchema.contributions []
          (stockRequest.filter (stockSchema.isFor [] "price"))).result =
        .ok [⟨.text "price", .gt, [.int 5]⟩, ⟨.text "price", .lte, [.int 9, .int 8]⟩,
          ⟨.text "price", .ne, [.int 7, .int 7]⟩] := by
      rw [hkept]
      rfl
    rw [compile_result, hread]
    rfl
  exact ⟨hkept, h, h', filter_restrict_eq (by decide) rfl h h'⟩

end QueryFilter
