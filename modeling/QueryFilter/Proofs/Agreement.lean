import QueryFilter.Service
import QueryFilter.Proofs.Paging

/-!
# QueryFilter.Proofs.Agreement

A service takes the result of a request apart, into the filter, the pagination and what the
configuration passed through. Together again the parts are the result.

* `Value.plain_plain`: a value that was made plain is plain.
* `Pagination.ofMapping_toMapping`: a directive read from its mapping.
* `Compiled.readEntries_of_named`, `Compiled.readQuery_filterOf`: entries with names are read as they
  are, and so is a filter.
* `passedThrough`, `assemble_eq`: a result by its parts.
* `ofMapping_assemble`, `toMapping_perm`: a result taken apart, and put together again.
* `Service.compile_agrees`: the service agrees with the compilation that it wraps.
-/

namespace QueryFilter

/-! ## Plain values -/

namespace Value

mutual

/-- A value that was made plain is plain. -/
theorem plain_plain : ∀ v : Value, v.plain.plain = v.plain
  | .list items => by rw [plain, plain, plainItems_plainItems items]
  | .tuple items => by rw [plain, plain, plainItems_plainItems items]
  | .mapping entries => by rw [plain, plain, plainEntries_plainEntries entries]
  | .descriptor fields => by rw [plain, plain, plainEntries_plainFields fields]
  | .null => rfl
  | .bool _ => rfl
  | .int _ => rfl
  | .float _ => rfl
  | .text _ => rfl
  | .bytes _ => rfl
  | .set _ => rfl
  | .object _ => rfl
  | .callable _ => rfl
termination_by structural v => v

theorem plainItems_plainItems : ∀ items : List Value,
    plainItems (plainItems items) = plainItems items
  | [] => rfl
  | v :: rest => by rw [plainItems, plainItems, plain_plain v, plainItems_plainItems rest]
termination_by structural items => items

theorem plainEntries_plainEntries : ∀ entries : List (Value × Value),
    plainEntries (plainEntries entries) = plainEntries entries
  | [] => rfl
  | (_, v) :: rest => by
      rw [plainEntries, plainEntries, plain_plain v, plainEntries_plainEntries rest]
termination_by structural entries => entries

theorem plainEntries_plainFields : ∀ fields : List (String × Value),
    plainEntries (plainFields fields) = plainFields fields
  | [] => rfl
  | (_, v) :: rest => by
      rw [plainFields, plainEntries, plain_plain v, plainEntries_plainFields rest]
termination_by structural fields => fields

end

end Value

/-! ## Directives -/

namespace Pagination

/-- A directive with its parts made plain. -/
def plain (p : Pagination) : Pagination where
  pageNo := p.pageNo.map Value.plain
  pageSize := p.pageSize.map Value.plain
  sort := p.sort.map (Option.map Value.plainEntries)
  sortDefault := p.sortDefault

theorem toMapping_plain (p : Pagination) : p.plain.toMapping = p.toMapping := by
  have hpage : ∀ (part : Option Value) (name : String),
      (part.map Value.plain).map (fun v => (Value.text name, v.plain)) =
        part.map fun v => (Value.text name, v.plain) := by
    intro part name
    cases part with
    | none => rfl
    | some v => exact congrArg (fun w => some (Value.text name, w)) v.plain_plain
  have hsort : (p.plain.sort.map (Value.ofOption .mapping)).map
      (fun v => (Value.text FieldName.sort, v.plain)) =
        (p.sort.map (Value.ofOption .mapping)).map
          fun v => (Value.text FieldName.sort, v.plain) := by
    rcases p with ⟨_, _, _ | _ | sort, _⟩
    · rfl
    · rfl
    · exact congrArg (fun w => some (Value.text FieldName.sort, w)) (Value.mapping sort).plain_plain
  unfold toMapping
  simp only [List.filterMap_cons, List.filterMap_nil, hsort]
  simp only [plain, hpage]

/-- A directive's mapping is read as the directive, made plain. -/
theorem ofMapping_toMapping (p : Pagination) : ofMapping p.toMapping = .ok p.plain := by
  rcases p with ⟨_ | no, _ | size, _ | _ | sort, _ | _ | mark⟩ <;> rfl

/-- The parts of a directive's mapping have names. -/
theorem hasNames_toMapping (p : Pagination) : Mapping.HasNames p.toMapping := by
  intro k hk
  obtain ⟨e, he, rfl⟩ := List.mem_map.mp hk
  obtain ⟨part, -, hpart⟩ := List.mem_filterMap.mp he
  obtain ⟨v, -, rfl⟩ := Option.map_eq_some_iff.mp hpart
  exact ⟨part.1, rfl⟩

end Pagination

/-! ## Entries -/

namespace Compiled

theorem readKey_text (path : List String) (name : String) :
    readKey path (.text name) = .ok (.text name) := rfl

/-- Reading entries with names, each of which has its value read as it is, sets them one after the
other. -/
theorem readEntries_eq_foldl {path : List String}
    {readValue : List String → Value → Except (List Issue) Value} {entries : Mapping Value}
    (h : Mapping.HasNames entries)
    (hvalue : ∀ e ∈ entries, ∀ path, readValue path e.2 = .ok e.2) (done : Mapping Value) :
    readEntries path readValue done entries =
      .ok (entries.foldl (fun m e => Mapping.put e.1 e.2 m) done) := by
  induction entries generalizing done with
  | nil => rfl
  | cons e rest ih =>
      obtain ⟨key, v⟩ := e
      obtain ⟨name, rfl⟩ := h key List.mem_cons_self
      rw [readEntries, readKey_text, hvalue _ List.mem_cons_self]
      exact ih h.of_cons (fun e he => hvalue e (List.mem_cons_of_mem _ he)) _

/-- Such entries are read as they are, if no name occurs twice. -/
theorem readEntries_of_named {path : List String}
    {readValue : List String → Value → Except (List Issue) Value} {entries : Mapping Value}
    (h : Mapping.Named entries)
    (hvalue : ∀ e ∈ entries, ∀ path, readValue path e.2 = .ok e.2) :
    readEntries path readValue [] entries = .ok entries := by
  rw [readEntries_eq_foldl h.hasNames hvalue]
  exact congrArg Except.ok (Mapping.foldl_put_of_named (m := []) h)

theorem readMapping_of_named {entries : Mapping Value} (h : Mapping.Named entries)
    (path : List String) : readMapping path (.mapping entries) = .ok (.mapping entries) := by
  show (readEntries path (fun _ v => .ok v) [] entries).map Value.mapping = _
  rw [readEntries_of_named h fun _ _ _ => rfl]
  rfl

end Compiled

/-! ## Criteria -/

/-- The operators of a field have names, each once. -/
theorem Accumulator.named_criteria (a : Accumulator) : Mapping.Named a.criteria := by
  have hkeys := a.keys_criteria
  constructor
  · intro k hk
    rw [hkeys] at hk
    obtain ⟨op, -, rfl⟩ := List.mem_map.mp hk
    exact ⟨op.name, rfl⟩
  · rw [hkeys]
    have hall : Operator.all.Nodup := by decide
    exact List.Pairwise.map _
      (fun _ _ hne he => hne (Operator.name_injective (Value.text.inj he)))
      (hall.sublist List.filter_sublist)

/-- The fields of a filter are the operators that they hold something for. -/
theorem exists_named_of_mem_filterOf {m : Matrix} {e : Value × Value}
    (he : e ∈ filterOf m.criteria) : ∃ slots, Mapping.Named slots ∧ e.2 = .mapping slots := by
  obtain ⟨a, -, ha⟩ := Matrix.mem_criteria.mp (List.mem_filter.mp he).1
  unfold Accumulator.criteria? at ha
  split at ha
  next => exact nomatch ha
  next => exact ⟨a.criteria, a.named_criteria, (Option.some.inj ha).symm⟩

theorem Matrix.occursOnce_criteria {name : String} {m : Matrix} (h : Mapping.OccursOnce name m) :
    Mapping.OccursOnce name m.criteria := by
  obtain ⟨a, ha⟩ := h
  exact ⟨a.bind Accumulator.criteria?, allAt_criteria_of_allAt ha⟩

/-- A filter whose fields have names is read as it is. -/
theorem Compiled.readQuery_filterOf {m : Matrix} (honce : ∀ name, Mapping.OccursOnce name m)
    (hnames : Mapping.HasNames (filterOf m.criteria)) (path : List String) :
    readQuery path (.mapping (filterOf m.criteria)) = .ok (filterOf m.criteria) := by
  have hnamed : Mapping.Named (filterOf m.criteria) := by
    refine Mapping.named_of_occursOnce hnames fun name => ?_
    exact (Matrix.occursOnce_criteria (honce name)).sublist List.filter_sublist
  refine readEntries_of_named hnamed fun e he path => ?_
  obtain ⟨slots, hslots, hvalue⟩ := exists_named_of_mem_filterOf he
  rw [hvalue]
  exact readMapping_of_named hslots path

/-! ## Results -/

/-- The entries that a configuration passes through: all but the pagination. -/
def passedThrough (cfg : Config) : Mapping Value :=
  Mapping.erase (.text FieldName.pagination) (Mapping.ofEntries cfg)

/-- Setting the pagination leaves the filter in front. -/
theorem put_pagination_cons (part filter : Value) (m : Mapping Value) :
    Mapping.put (.text FieldName.pagination) part ((.text FieldName.query, filter) :: m) =
      (.text FieldName.query, filter) :: Mapping.put (.text FieldName.pagination) part m := by
  have hne : ¬(Value.text FieldName.pagination == Value.text FieldName.query) = true := by decide
  rw [Mapping.put, if_neg hne]

section Results

variable {cfg : Config}

theorem named_ofEntries (hnames : Mapping.HasNames cfg) : Mapping.Named (Mapping.ofEntries cfg) :=
  Mapping.Named.foldl_put hnames ⟨nofun, List.Pairwise.nil⟩

theorem named_passedThrough (hnames : Mapping.HasNames cfg) : Mapping.Named (passedThrough cfg) :=
  (named_ofEntries hnames).sublist List.filter_sublist

theorem find?_query_ofEntries (hquery : Mapping.find? FieldName.query cfg = none) :
    Mapping.find? FieldName.query (Mapping.ofEntries cfg) = none :=
  Mapping.find?_foldl_put hquery []

theorem find?_query_passedThrough (hquery : Mapping.find? FieldName.query cfg = none) :
    Mapping.find? FieldName.query (passedThrough cfg) = none := by
  rw [passedThrough, Mapping.find?_erase_of_ne (by decide)]
  exact find?_query_ofEntries hquery

/-- A result has the filter in front, and after it the configuration with its pagination replaced or
left out. -/
theorem assemble_eq (hquery : Mapping.find? FieldName.query cfg = none) (filter : Mapping Value)
    (p : Option Pagination) :
    assemble filter cfg p = (.text FieldName.query, .mapping filter) ::
      match p with
      | some p => Mapping.put (.text FieldName.pagination) (.mapping p.toMapping)
          (Mapping.ofEntries cfg)
      | none => passedThrough cfg := by
  have hfields : cfg.foldl (fun m e => Mapping.put e.1 e.2 m)
      [(.text FieldName.query, .mapping filter)] =
        (.text FieldName.query, .mapping filter) :: Mapping.ofEntries cfg :=
    Mapping.foldl_put_cons (Mapping.ne_of_find?_eq_none hquery) _ []
  unfold assemble
  rw [hfields]
  cases p with
  | none => rfl
  | some p => exact put_pagination_cons _ _ _

/-- Leaving out the filter of entries that hold none, and the pagination, leaves out the
pagination. -/
theorem extrasOf_eq_erase {m : Mapping Value} (h : Mapping.find? FieldName.query m = none) :
    Compiled.extrasOf m = Mapping.erase (.text FieldName.pagination) m := by
  refine List.filter_congr fun e he => ?_
  have hkey : (Value.text FieldName.query == e.1) = false := by
    rw [Bool.eq_false_iff]
    intro hsame
    exact Mapping.ne_of_find?_eq_none h e.1 (List.mem_map_of_mem he) (Value.text_beq_iff.mp hsame)
  rw [hkey, Bool.false_or]

theorem extrasOf_assemble (hquery : Mapping.find? FieldName.query cfg = none)
    (filter : Mapping Value) (p : Option Pagination) :
    Compiled.extrasOf (assemble filter cfg p) = passedThrough cfg := by
  have hhead : ∀ m : Mapping Value,
      Compiled.extrasOf ((.text FieldName.query, .mapping filter) :: m) = Compiled.extrasOf m :=
    fun _ => rfl
  rw [assemble_eq hquery, hhead]
  cases p with
  | none =>
      rw [extrasOf_eq_erase (find?_query_passedThrough hquery), passedThrough]
      simp [Mapping.erase]
  | some p =>
      rw [extrasOf_eq_erase, Mapping.erase_put_self]
      · rfl
      · rw [Mapping.find?_put_of_ne (Value.text_ne_of_ne (by decide))]
        exact find?_query_ofEntries hquery

theorem readPagination_assemble (filter : Mapping Value) (cfg : Config) (p : Option Pagination) :
    Compiled.readPagination (assemble filter cfg p) = .ok (p.map Pagination.plain) := by
  unfold Compiled.readPagination Mapping.getOrNull
  rw [find?_pagination_assemble]
  cases p with
  | none => rfl
  | some p =>
      have hkeys : (p.toMapping.any fun e => (Descriptor.keyIssue? e.1).isSome) = false := by
        rw [List.any_eq_false]
        intro e he
        obtain ⟨name, hname⟩ := p.hasNames_toMapping e.1 (List.mem_map_of_mem he)
        rw [hname]
        exact Bool.false_ne_true
      show (if p.toMapping.any (fun e => (Descriptor.keyIssue? e.1).isSome) then _ else _) = _
      rw [hkeys, Pagination.ofMapping_toMapping]
      rfl

/-- A result taken apart. -/
theorem ofMapping_assemble (hnames : Mapping.HasNames cfg)
    (hquery : Mapping.find? FieldName.query cfg = none) {m : Matrix}
    (honce : ∀ name, Mapping.OccursOnce name m) (hfilter : Mapping.HasNames (filterOf m.criteria))
    (p : Option Pagination) (messages : List String) :
    Compiled.ofMapping (assemble (filterOf m.criteria) cfg p) messages =
      .ok ⟨filterOf m.criteria, p.map Pagination.plain, messages, passedThrough cfg⟩ := by
  have hheld : Mapping.getOrNull FieldName.query (assemble (filterOf m.criteria) cfg p) =
      .mapping (filterOf m.criteria) := by
    unfold Mapping.getOrNull
    rw [filters_assemble hquery p]
    rfl
  -- an empty filter counts as not given, and is read as empty
  have hgiven : (if (Value.mapping (filterOf m.criteria)).isTruthy then
      Value.mapping (filterOf m.criteria) else .mapping []) = .mapping (filterOf m.criteria) := by
    cases filterOf m.criteria <;> rfl
  unfold Compiled.ofMapping
  rw [readPagination_assemble, hheld]
  dsimp only [bind, Except.bind]
  rw [hgiven, extrasOf_assemble hquery, Compiled.readQuery_filterOf honce hfilter,
    Compiled.readEntries_of_named (named_passedThrough hnames) fun _ _ _ => rfl]
  rfl

/-- Together again, the parts are the result, but for the place of the pagination. -/
theorem toMapping_perm (hnames : Mapping.HasNames cfg)
    (hquery : Mapping.find? FieldName.query cfg = none) (filter : Mapping Value)
    (p : Option Pagination) (messages : List String) :
    (Compiled.toMapping ⟨filter, p.map Pagination.plain, messages, passedThrough cfg⟩).Perm
      (assemble filter cfg p) := by
  have hfields : (passedThrough cfg).foldl (fun m e => Mapping.put e.1 e.2 m)
      [(.text FieldName.query, .mapping filter)] =
        (.text FieldName.query, .mapping filter) :: passedThrough cfg := by
    rw [Mapping.foldl_put_cons
      (Mapping.ne_of_find?_eq_none (find?_query_passedThrough hquery))]
    exact congrArg _ (Mapping.foldl_put_of_named (m := []) (named_passedThrough hnames))
  unfold Compiled.toMapping
  rw [assemble_eq hquery, hfields]
  cases p with
  | none => exact List.Perm.refl _
  | some p =>
      have hnew : Mapping.hasKey (.text FieldName.pagination) (passedThrough cfg) = false := by
        have hnone := Mapping.find?_erase_self FieldName.pagination (Mapping.ofEntries cfg)
        unfold Mapping.find? at hnone
        rw [Mapping.hasKey, passedThrough, hnone]
        rfl
      dsimp only [Option.map_some]
      rw [put_pagination_cons, Mapping.put_of_not_hasKey hnew, Pagination.toMapping_plain]
      exact (Mapping.perm_put (named_ofEntries hnames) _).symm.cons _

end Results

/-! ## Agreement -/

/-- A result is refused exactly where it has diagnostics, with these. -/
theorem Compiled.requireClean_eq (r : Compiled) :
    r.requireClean = if r.messages = [] then .ok r else .error (.rejected r.messages) := by
  unfold requireClean hasDiagnostics
  cases r.messages <;> rfl

/-- **The service agrees with the compilation that it wraps.** It fails where the compilation does,
with the same fault. Where the configuration and the filter have names for keys, and no key of the
configuration is that of the filter, the parts that it returns are those of the result, with its
diagnostics; a strict service returns the same parts, or refuses the diagnostics if there are any. -/
theorem Service.compile_agrees (service : Service) (request : Request) (cfg : Option Config) :
    let effective := cfg.getD service.config
    let outcome := QueryFilter.compile service.schema service.fallback request effective
    (∀ fault, outcome.result = .error fault →
      ∀ strict, service.compile request cfg strict = .error fault) ∧
    ∀ result filter, outcome.result = .ok result → Mapping.HasNames effective →
      Mapping.find? FieldName.query effective = none → Filters result filter →
      Mapping.HasNames filter →
      ∃ compiled, service.compile request cfg false = .ok compiled ∧
        compiled.toMapping.Perm result ∧ compiled.messages = outcome.messages ∧
        service.compile request cfg true =
          if outcome.messages = [] then .ok compiled else .error (.rejected outcome.messages) := by
  intro effective outcome
  have hcompile : ∀ strict, service.compile request cfg strict =
      outcome.result >>= fun result => Compiled.ofMapping result outcome.messages >>= fun compiled =>
        if strict then compiled.requireClean else .ok compiled := fun _ => rfl
  refine ⟨fun fault hfault strict => ?_,
    fun result filter hresult hnames hquery hfilters hfields => ?_⟩
  · rw [hcompile, hfault]
    rfl
  · obtain ⟨filled, defaulted, settled, pagination, hgather, hsettle, -, rfl⟩ :=
      compile_stages hresult
    obtain rfl : filterOf settled.criteria = filter :=
      Value.mapping.inj (Option.some.inj ((filters_assemble hquery pagination).symm.trans hfilters))
    obtain ⟨cs, -, hfill⟩ := gatherRequest_inv hgather
    have honce := fun name => Matrix.occursOnce_settle hsettle (occursOnce_filled hfill name)
    have hparts := ofMapping_assemble hnames hquery honce hfields pagination outcome.messages
    refine ⟨_, ?_, toMapping_perm hnames hquery _ pagination outcome.messages, rfl, ?_⟩
    · rw [hcompile, hresult]
      exact congrArg (fun r => r >>= fun compiled => .ok compiled) hparts
    · rw [hcompile, hresult]
      refine (congrArg (fun r => r >>= Compiled.requireClean) hparts).trans ?_
      exact Compiled.requireClean_eq _

/-- A service that knows one field, and whose configuration carries a sort and more. -/
def catalogService : Service where
  schema := { template := some [(.text "price", .mapping [])] }
  config := [(.text "pagination", .mapping [(.text "sort", .list [.text "price", .int (-1)])]),
    (.text "tenant", .int 7)]

/-- A request that names a field that the service does not know. -/
def catalogRequest : Request := [("price", .text "5"), ("colour", .text "red")]

def catalogResult : Mapping Value :=
  [(.text "query", .mapping [(.text "price", .mapping [(.text "eq", .list [.int 5])])]),
    (.text "pagination", .mapping [(.text "sort", .mapping [(.text "price", .int (-1))]),
      (.text "sort_default", .bool true)]),
    (.text "tenant", .int 7)]

theorem catalogService_agrees :
    QueryFilter.compile catalogService.schema catalogService.fallback catalogRequest
      catalogService.config = ⟨[.unknownField (.text "colour")], .ok catalogResult⟩ ∧
    ∃ compiled, catalogService.compile catalogRequest none false = .ok compiled ∧
      compiled.toMapping.Perm catalogResult ∧
      compiled.messages = [(Diagnostic.unknownField (.text "colour")).message] ∧
      catalogService.compile catalogRequest none true =
        .error (.rejected [(Diagnostic.unknownField (.text "colour")).message]) := by
  have h : QueryFilter.compile catalogService.schema catalogService.fallback catalogRequest
      catalogService.config = ⟨[.unknownField (.text "colour")], .ok catalogResult⟩ := by rfl
  have hnames : Mapping.HasNames catalogService.config := by
    intro k hk
    rcases List.mem_cons.mp hk with rfl | hk
    · exact ⟨_, rfl⟩
    · exact ⟨_, List.mem_singleton.mp hk⟩
  have hfields : Mapping.HasNames
      [(Value.text "price", Value.mapping [(.text "eq", .list [.int 5])])] :=
    fun k hk => ⟨_, List.mem_singleton.mp hk⟩
  obtain ⟨-, hagrees⟩ := catalogService.compile_agrees catalogRequest none
  obtain ⟨compiled, hcompiled, hperm, hmessages, hstrict⟩ :=
    hagrees catalogResult _ (congrArg Logged.result h) hnames rfl rfl hfields
  rw [Option.getD_none, h] at hmessages hstrict
  exact ⟨h, compiled, hcompiled, hperm, hmessages, hstrict⟩

end QueryFilter
