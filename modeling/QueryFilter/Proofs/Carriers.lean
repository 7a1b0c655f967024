import QueryFilter.Proofs.Paging
import QueryFilter.Proofs.SortOrder
import QueryFilter.Proofs.Wire

/-!
# QueryFilter.Proofs.Carriers

The places where a sort may be written. A request spells it in a text; a schema's default and the
configuration hold it as a mapping or as a list. All of them lead to the same pagination, but for
the mark that says whether the sort is a default.

* `NamedSort`: names with directions, in order.
* `NamedSort.spelling`, `NamedSort.carriers`: how it is written in a request, and elsewhere.
* `NamedSort.gatherRequest_spelling`, `NamedSort.gatherRequest_default`: what a request and a schema
  bring, which is the same matrix.
* `NamedSort.compile_carriers`: all carriers agree.
-/

namespace QueryFilter

/-- A name that a sort may be written with: trimmed, no number, and without the mark between the
tokens. -/
structure IsSortName (s : String) : Prop where
  ne_empty : s ≠ ""
  strip_eq : Text.strip s = s
  not_spelled : ¬Spelled s.toList
  no_pipe : '|' ∉ s.toList

/-- A direction as a request spells it. -/
def Direction.text : Direction → String
  | .ascending => "1"
  | .descending => "-1"

/-- Names with directions, in order: at least one, and none of them twice. -/
structure NamedSort where
  fields : List (String × Direction)
  ne_nil : fields ≠ []
  names_nodup : (fields.map Prod.fst).Nodup
  isSortName : ∀ f ∈ fields, IsSortName f.1

namespace NamedSort

/-- The names as values. -/
def order (o : NamedSort) : SortOrder := o.fields.map fun f => (.text f.1, f.2)

/-- The mapping from names to directions. -/
def mapping (o : NamedSort) : Mapping Value := o.order.entries

/-- The tokens of a request, each with what it stands for. -/
def literals (o : NamedSort) : List (String × Value) :=
  o.fields.flatMap fun f => [(f.1, .text f.1), (f.2.text, f.2.toValue)]

/-- The text of a request: names and directions, which alternate, with pipes between them. -/
def spelling (o : NamedSort) : String := piped (o.literals.map Prod.fst)

/-- What may be written elsewhere: the mapping, and the list in which names and directions
alternate. -/
def carriers (o : NamedSort) : List Value := [.mapping o.mapping, .list (flattenSort o.mapping)]

/-- A result that says nothing but the sort. -/
def result (o : NamedSort) (isDefault : Bool) : Mapping Value :=
  [(.text FieldName.query, .mapping []),
    (.text FieldName.pagination, .mapping
      [(.text FieldName.sort, .mapping o.mapping), (.text sortDefaultField, .bool isDefault)])]

end NamedSort

/-- A schema that knows the sort only, and has a default for it. -/
def sortDefault (default : Value) : Schema where
  template := some [(.text FieldName.sort, .mapping [(.text Descriptor.defaultField, default)])]

/-- A configuration that holds a sort only. -/
def sortConfig (sort : Value) : Config :=
  [(.text FieldName.pagination, .mapping [(.text FieldName.sort, sort)])]

/-! ## Tokens -/

theorem IsSortName.isTrimmed {s : String} (h : IsSortName s) : Text.IsTrimmed s.toList :=
  Text.isTrimmed_of_trim_eq (trim_of_strip_eq h.strip_eq)

theorem IsSortName.readNumber_eq {s : String} (h : IsSortName s) : readNumber s = .ok none := by
  rw [readNumber_eq_none_iff, trim_of_strip_eq h.strip_eq]
  exact h.not_spelled

theorem IsSortName.convert {s : String} (h : IsSortName s) :
    convertPiece (.text s) = .ok (.text s) := by
  rw [convertPiece_text, h.readNumber_eq]
  exact congrArg (fun t => Except.ok (Value.text t)) h.strip_eq

/-- Such a name is a field: it is no number, and not blank, for its first character is not. -/
theorem IsSortName.read {s : String} (h : IsSortName s) :
    SortToken.read (.text s) = .ok .field := by
  have hblank : SortToken.isBlank (.text s) = false := by
    have hne : s.toList ≠ [] := fun hnil => h.ne_empty (String.toList_eq_nil_iff.mp hnil)
    obtain ⟨c, cs, hcs⟩ := List.exists_cons_of_ne_nil hne
    have hhead := h.isTrimmed.1
    rw [hcs] at hhead
    show s.toList.all Text.isBlank = false
    rw [hcs, List.all_cons, hhead c rfl, Bool.false_and]
  show (readNumber s >>= _) = _
  rw [h.readNumber_eq]
  show Except.ok (if SortToken.isBlank (.text s) then SortToken.stray else .field) = _
  rw [hblank]
  rfl

theorem Direction.legible (d : Direction) : Legible d.text d.toValue := by
  cases d with
  | ascending => exact legible_renderInt (n := 1) (Nat.one_lt_pow (by decide) (by decide))
  | descending => exact legible_renderInt (n := -1) (Nat.one_lt_pow (by decide) (by decide))

theorem Direction.no_pipe (d : Direction) : '|' ∉ d.text.toList := by
  cases d <;> decide

/-! ## Stages -/

namespace NamedSort

variable (o : NamedSort)

/-- The matrix that holds the sort and nothing else. -/
def matrix : Matrix := [(.text FieldName.sort, { eq := some o.order.values })]

theorem order_ne_nil : o.order ≠ [] := by
  simpa [order] using o.ne_nil

theorem exists_values : ∃ v rest, o.order.values = v :: rest :=
  List.exists_cons_of_ne_nil fun hnil => o.order_ne_nil (SortOrder.values_eq_nil_iff.mp hnil)

theorem read_order : ∀ e ∈ o.order, SortToken.read e.1 = .ok .field := by
  intro e he
  obtain ⟨f, hf, rfl⟩ := List.mem_map.mp he
  exact (o.isSortName f hf).read

theorem named_mapping : Mapping.Named o.mapping := by
  have hkeys : Mapping.keys o.mapping = (o.fields.map Prod.fst).map Value.text := by
    simp [Mapping.keys, mapping, SortOrder.entries, order]
  constructor
  · intro k hk
    rw [hkeys] at hk
    obtain ⟨name, -, rfl⟩ := List.mem_map.mp hk
    exact ⟨name, rfl⟩
  · rw [hkeys]
    exact List.Pairwise.map Value.text (fun _ _ h => Value.text_ne_of_ne h) o.names_nodup

/-- The list in which names and directions alternate has the mapping that it was made of. -/
theorem sortMapping_values : sortMapping o.order.values = .ok o.mapping := by
  have hkeys : ∀ e ∈ o.order, e.1.keyObstacle? = none := by
    intro e he
    obtain ⟨f, -, rfl⟩ := List.mem_map.mp he
    rfl
  rw [sortMapping, putSort_values hkeys]
  exact congrArg Except.ok (Mapping.foldl_put_of_named (m := []) o.named_mapping)

/-- Where fields are not looked up, the sort is settled already. -/
theorem settle_matrix {s : Schema} (hs : s.checksSort = false) (cfg : Config) :
    o.matrix.settle s cfg = ⟨[], .ok o.matrix⟩ := by
  refine Matrix.settle_eq_self fun e he => ?_
  rw [List.mem_singleton.mp he]
  exact Matrix.settleField_values hs cfg rfl o.order_ne_nil o.read_order

/-- The directive that holds the sort and nothing else. -/
def directive (isDefault : Bool) : Pagination :=
  { sort := some (some o.mapping), sortDefault := some (some isDefault) }

theorem criteria_matrix : o.matrix.criteria =
    [(.text FieldName.sort, .mapping [(.text Operator.eq.name, .list o.order.values)])] := by
  obtain ⟨v, rest, hvalues⟩ := o.exists_values
  unfold matrix
  rw [hvalues]
  rfl

/-- The directive of a request for the sort. -/
theorem ofQuery_matrix (isDefault : Bool) (fallback : Value) :
    Pagination.ofQuery o.matrix.criteria [] isDefault fallback =
      .ok (some (o.directive isDefault)) := by
  obtain ⟨v, rest, hvalues⟩ := o.exists_values
  have hmatrix : o.matrix = Matrix.ofSort o.order.values := by
    unfold matrix
    rw [hvalues]
    rfl
  rw [hmatrix, Pagination.ofQuery_ofSort, o.sortMapping_values, hvalues]
  rfl

/-- The directive of a request that says nothing, where the sort is configured. -/
theorem ofQuery_config {cfg : Config} (hcfg : configuredSort cfg = .ok o.mapping)
    (fallback : Value) :
    Pagination.ofQuery [] cfg false fallback = .ok (some (o.directive true)) := by
  have hne : o.mapping.isEmpty = false := by
    simpa [mapping, SortOrder.entries] using o.order_ne_nil
  rw [Pagination.ofQuery_eq rfl rfl rfl hcfg, hne]
  unfold Pagination.withSort
  rw [hne]
  rfl

theorem toMapping_directive (isDefault : Bool) : (o.directive isDefault).toMapping =
    [(.text FieldName.sort, .mapping o.mapping), (.text sortDefaultField, .bool isDefault)] := by
  show [(_, (Value.mapping o.mapping).plain), _] = _
  rw [plain_of_sortMapping o.sortMapping_values]
  rfl

/-! ## Requests and defaults -/

theorem mem_literals {l : String × Value} (h : l ∈ o.literals) :
    (IsSortName l.1 ∧ l.2 = .text l.1) ∨ ∃ d : Direction, l = (d.text, d.toValue) := by
  obtain ⟨f, hf, hl⟩ := List.mem_flatMap.mp h
  rcases List.mem_cons.mp hl with rfl | hl
  · exact .inl ⟨o.isSortName f hf, rfl⟩
  · exact .inr ⟨f.2, List.mem_singleton.mp hl⟩

theorem convert_literals : ∀ l ∈ o.literals, convertPiece (.text l.1) = .ok l.2 := by
  intro l hl
  rcases o.mem_literals hl with ⟨hname, hvalue⟩ | ⟨d, rfl⟩
  · rw [hvalue]
    exact hname.convert
  · exact d.legible.convert

/-- Neither cutting nor trimming gets in the way of a token. -/
theorem bare_literals :
    ∀ text ∈ o.literals.map Prod.fst, '|' ∉ text.toList ∧ Text.IsTrimmed text.toList := by
  intro text htext
  obtain ⟨l, hl, rfl⟩ := List.mem_map.mp htext
  rcases o.mem_literals hl with ⟨hname, -⟩ | ⟨d, rfl⟩
  · exact ⟨hname.no_pipe, hname.isTrimmed⟩
  · exact ⟨d.no_pipe, d.legible.trimmed⟩

theorem map_snd_literals : o.literals.map Prod.snd = o.order.values := by
  unfold literals order
  induction o.fields with
  | nil => rfl
  | cons f rest ih => simp [ih]

/-- A direction follows each name, so there is a pipe between tokens. -/
theorem pipe_mem_spelling : '|' ∈ o.spelling.toList := by
  obtain ⟨f, rest, hfields⟩ := List.exists_cons_of_ne_nil o.ne_nil
  unfold spelling literals
  rw [toList_piped, hfields]
  simp [Text.joinWith_cons_cons]

theorem read_spelling : Token.read FieldName.sort (.text o.spelling) =
    ⟨FieldName.sort, .text o.spelling, .eq⟩ := by
  have hne : o.spelling ≠ "" := by
    intro hempty
    have hpipe := o.pipe_mem_spelling
    rw [hempty] at hpipe
    exact nomatch hpipe
  exact Token.read_sort hne (isNullText_of_pipe_mem o.pipe_mem_spelling)

/-- The text of a request is cut and converted to the tokens of the sort. -/
theorem convert_spelling : (Token.mk FieldName.sort (.text o.spelling) .eq).convert =
    .ok o.order.values := by
  have hne : o.literals.map Prod.fst ≠ [] := by
    obtain ⟨f, rest, hfields⟩ := List.exists_cons_of_ne_nil o.ne_nil
    simp [literals, hfields]
  have hpieces : rawPieces .eq (.text o.spelling) = (o.literals.map Prod.fst).map .text :=
    map_pipePieces_piped hne o.bare_literals
  unfold Token.convert
  rw [hpieces, mapM_convertPiece o.convert_literals, map_snd_literals]

theorem contribution?_spelling : ({} : Schema).contribution? [] (FieldName.sort, .text o.spelling) =
    ⟨[], .ok (some ⟨.text FieldName.sort, .eq, o.order.values⟩)⟩ := by
  obtain ⟨v, rest, hvalues⟩ := o.exists_values
  have hname : FieldName.sort ≠ "" := by decide
  rw [Schema.contribution?_schemaless, read_spelling, if_neg hname,
    Token.contribution?_schemaless, convert_spelling, hvalues]
  rfl

/-- A request that spells the sort brings its tokens. -/
theorem gatherRequest_spelling :
    gatherRequest {} [] [(FieldName.sort, .text o.spelling)] = ⟨[], .ok (o.matrix, [])⟩ := by
  unfold gatherRequest gatherPairs
  rw [gatherPair_eq, contribution?_spelling]
  rfl

/-- A default that gives the tokens of the sort brings them where the request is silent. -/
theorem gatherRequest_default {default : Value}
    (h : Descriptor.collectedDefault (.text FieldName.sort) .eq default = .ok o.order.values) :
    gatherRequest (sortDefault default) [] [] =
      ⟨[], .ok (o.matrix, [.text FieldName.sort])⟩ := by
  have hdescriptor : defaultDescriptor? (.text FieldName.sort)
      (.mapping [(.text Descriptor.defaultField, default)]) [] [] =
        .ok (some { default := some default }) := rfl
  have hwritten : Matrix.writeDefault (.text FieldName.sort) { default := some default } [] =
      ⟨o.matrix, true, []⟩ := by
    have haccumulator : ({ default := some default } : Descriptor).defaultAccumulator
        (.text FieldName.sort) = .ok ({ eq := some o.order.values }, []) := by
      rw [Descriptor.defaultAccumulator_eq rfl, Option.getD_some, h]
      rfl
    unfold Matrix.writeDefault
    rw [haccumulator]
    rfl
  have hfill : fillDefaults [] ((sortDefault default).template.getD []) [] =
      ⟨o.matrix, [.text FieldName.sort], [], none⟩ := by
    show fillDefaults [] [(_, _)] [] = _
    unfold fillDefaults
    rw [hdescriptor]
    dsimp only
    rw [hwritten]
    rfl
  unfold gatherRequest gatherPairs
  show (fillDefaults [] ((sortDefault default).template.getD []) []).toLogged = _
  rw [hfill]
  rfl

theorem mem_carriers {carrier : Value} (h : carrier ∈ o.carriers) :
    carrier = .mapping o.mapping ∨ carrier = .list o.order.values :=
  (List.mem_cons.mp h).imp_right List.mem_singleton.mp

/-- Each carrier gives the tokens of the sort as a default. -/
theorem collectedDefault_carrier {carrier : Value} (h : carrier ∈ o.carriers) :
    Descriptor.collectedDefault (.text FieldName.sort) .eq carrier = .ok o.order.values := by
  rcases o.mem_carriers h with rfl | rfl
  · rfl
  · have hplain : o.order.values.any Value.isCollection = false := by
      unfold order
      induction o.fields with
      | nil => rfl
      | cons f rest ih =>
          obtain ⟨name, d⟩ := f
          cases d <;> exact ih
    show (if o.order.values.any Value.isCollection then _ else _) = _
    rw [hplain]
    rfl

/-- Each carrier gives the mapping of the sort as a configuration. -/
theorem configuredSort_carrier {carrier : Value} (h : carrier ∈ o.carriers) :
    configuredSort (sortConfig carrier) = .ok o.mapping := by
  rcases o.mem_carriers h with rfl | rfl
  · rfl
  · exact o.sortMapping_values

/-! ## Agreement -/

/-- The result that holds the directive, where the configuration is empty or holds a sort only. -/
theorem assemble_directive {cfg : Config} (h : cfg = [] ∨ ∃ sort, cfg = sortConfig sort)
    (isDefault : Bool) : assemble [] cfg (some (o.directive isDefault)) = o.result isDefault := by
  rcases h with rfl | ⟨sort, rfl⟩
  all_goals
    dsimp only [assemble]
    rw [toMapping_directive]
    rfl

/-- The result of a request that gathers the sort, from the request or from a default. -/
theorem compile_of_matrix {s : Schema} (hs : s.checksSort = false) {request : Request}
    {defaulted : List Value} (h : gatherRequest s [] request = ⟨[], .ok (o.matrix, defaulted)⟩)
    (fallback : Value) :
    compile s fallback request [] = ⟨[], .ok (o.result (defaulted.any FieldName.isSort))⟩ := by
  have hfilter : filterOf o.matrix.criteria = [] := by
    rw [criteria_matrix]
    rfl
  rw [compile_of_stages h (o.settle_matrix hs []) (o.ofQuery_matrix _ fallback), hfilter,
    o.assemble_directive (.inl rfl)]

/-- **All carriers of a sort agree.** The text of a request, and the mapping and the list of a
schema's default or of the configuration, compile to the mapping of the sort in its order, without
a report. Only the sort of the request is not marked as a default. -/
theorem compile_carriers (fallback : Value) :
    compile {} fallback [(FieldName.sort, .text o.spelling)] [] = ⟨[], .ok (o.result false)⟩ ∧
    ∀ carrier ∈ o.carriers,
      compile (sortDefault carrier) fallback [] [] = ⟨[], .ok (o.result true)⟩ ∧
      compile {} fallback [] (sortConfig carrier) = ⟨[], .ok (o.result true)⟩ := by
  refine ⟨o.compile_of_matrix rfl o.gatherRequest_spelling fallback, fun carrier h => ⟨?_, ?_⟩⟩
  · exact o.compile_of_matrix rfl
      (o.gatherRequest_default (o.collectedDefault_carrier h)) fallback
  · -- the request brings nothing, and nothing is settled
    have hgather : gatherRequest {} (sortConfig carrier) [] = ⟨[], .ok ([], [])⟩ := rfl
    have hsettle : Matrix.settle {} (sortConfig carrier) [] = ⟨[], .ok []⟩ := rfl
    rw [compile_of_stages hgather hsettle (o.ofQuery_config (o.configuredSort_carrier h) fallback)]
    exact congrArg (fun r => Logged.mk [] (Except.ok r))
      (o.assemble_directive (.inr ⟨carrier, rfl⟩) true)

/-- A name may be a text that stands for null elsewhere, and need not be in the order of the
alphabet. -/
def priceSort : NamedSort where
  fields := [("price", .descending), ("null", .ascending)]
  ne_nil := List.cons_ne_nil _ _
  names_nodup := by decide
  isSortName := by
    intro f hf
    rcases List.mem_cons.mp hf with rfl | hf
    · exact ⟨by decide, rfl, by decide, by decide⟩
    · rw [List.mem_singleton.mp hf]
      exact ⟨by decide, rfl, by decide, by decide⟩

theorem compile_priceSort :
    compile {} (.int 1) [("sort", .text "price|-1|null|1")] [] =
      ⟨[], .ok (priceSort.result false)⟩ ∧
    compile (sortDefault (.mapping [(.text "price", .int (-1)), (.text "null", .int 1)])) (.int 1)
      [] [] = ⟨[], .ok (priceSort.result true)⟩ ∧
    compile {} (.int 1) []
      (sortConfig (.list [.text "price", .int (-1), .text "null", .int 1])) =
        ⟨[], .ok (priceSort.result true)⟩ := by
  obtain ⟨hspelled, hcarried⟩ := priceSort.compile_carriers (.int 1)
  exact ⟨hspelled, (hcarried _ List.mem_cons_self).1,
    (hcarried _ (List.mem_cons_of_mem _ List.mem_cons_self)).2⟩

end NamedSort

end QueryFilter
