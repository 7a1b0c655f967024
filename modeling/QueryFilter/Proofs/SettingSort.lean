import QueryFilter.Settings
import QueryFilter.Proofs.Paging
import QueryFilter.Proofs.Schemaless
import QueryFilter.Proofs.SortOrder
import QueryFilter.Proofs.Tokens

/-!
# QueryFilter.Proofs.SettingSort

The sort of the settings is read as a request's sort is.

Two ways lead from a text to the sort of a pagination. The settings convert the text, read it and
put its fields in a mapping, in a row. A request goes through a token, a matrix that is settled, its
criteria and a directive. Both are shown to do what `spelledSort` does, faults included.

* `spelledSort`: the sort that a text spells.
* `paginationSort`: the sort that a configuration or a result shows.
* `Settings.paginationSort_config`: the way of the settings.
* `contributions_sort`, `Matrix.settle_ofSort`: the matrix of a request for a sort alone, before it is
  settled and afterwards.
* `compile_sort`: the way of a request.
* `Settings.config_eq_compile`: the two agree.
-/

namespace QueryFilter

/-- The mapping of the sort that tokens make, unless no field is read. -/
def sortOfTokens (tokens : List Value) : Except Fault (Option (Mapping Value)) := do
  let values ← (readSort {} [] false tokens).result
  if values.isEmpty then return none
  return some (← sortMapping values)

/-- The sort that a text spells: its pieces are converted, and are the tokens. -/
def spelledSort (s : String) : Except Fault (Option (Mapping Value)) :=
  readValues (fun _ v => .ok v) .standard .eq (.text s) >>= sortOfTokens

/-- The sort in the pagination of a configuration or of a result, if there is one. -/
def paginationSort (m : Mapping Value) : Option Value :=
  match Mapping.find? FieldName.pagination m with
  | some (.mapping fields) => Mapping.find? FieldName.sort fields
  | _ => none

/-! ## The settings -/

namespace Settings

variable {settings : Settings}

theorem number_of_unset {name : String} (h : settings.lookup name = none) (field : String) :
    settings.number name field = .ok [] := by
  have htext : settings.text name = "" := by rw [text, h]; rfl
  unfold number
  rw [htext]
  rfl

/-- The sort that a setting spells, by its field's name. -/
theorem sort_eq {s : String} (h : settings.lookup sortName = some s) (hs : s ≠ "") :
    settings.sort = (spelledSort s).map fun sort? =>
      (sort?.map fun sort => (Value.text FieldName.sort, Value.mapping sort)).toList := by
  have htext : settings.text sortName = s := by rw [text, h]; rfl
  unfold sort spelledSort sortOfTokens
  rw [htext, if_neg hs]
  refine Eq.trans ?_ (map_bind _ _ _).symm
  refine bind_congr fun tokens => ?_
  refine Eq.trans ?_ (map_bind _ _ _).symm
  refine bind_congr fun values => ?_
  cases values with
  | nil => rfl
  | cons v rest =>
      rw [List.isEmpty_cons, if_neg Bool.false_ne_true, if_neg Bool.false_ne_true]
      cases sortMapping (v :: rest) <;> rfl

/-- Settings without page fields show the sort that theirs spells. -/
theorem paginationSort_config {s : String} (h : settings.lookup sortName = some s) (hs : s ≠ "")
    (hno : settings.lookup pageNoName = none) (hsize : settings.lookup pageSizeName = none) :
    settings.config.map paginationSort = (spelledSort s).map (Option.map Value.mapping) := by
  unfold config
  rw [number_of_unset hno, number_of_unset hsize, sort_eq h hs]
  cases spelledSort s with
  | error fault => rfl
  | ok sort? => cases sort? <;> rfl

end Settings

/-! ## A request -/

/-- What a request for a sort alone contributes. -/
theorem contributions_sort {s : String} (hs : s ≠ "") (hnull : isNullText s = false) :
    (({} : Schema).contributions [] [(FieldName.sort, .text s)]).result =
      (readValues (fun _ v => .ok v) .standard .eq (.text s)).map fun tokens =>
        if tokens.isEmpty then [] else [⟨.text FieldName.sort, .eq, tokens⟩] := by
  have hpair := Schema.contribution?_schemaless [] (FieldName.sort, .text s)
  rw [Token.read_sort hs hnull, Token.contribution?_schemaless] at hpair
  unfold Schema.contributions
  rw [hpair, if_neg (show FieldName.sort ≠ "" by decide), Logged.result_bind]
  show (Except.map _ (readValues (fun _ v => .ok v) .standard .eq (.text s)) >>= _) = _
  cases readValues (fun _ v => .ok v) .standard .eq (.text s) with
  | error fault => rfl
  | ok tokens => cases tokens <;> rfl

/-- Such contributions make the matrix of a sort. -/
theorem Matrix.foldl_grow_sort (tokens : List Value) :
    (if tokens.isEmpty then [] else [(⟨.text FieldName.sort, .eq, tokens⟩ : Contribution)]).foldl
      Matrix.grow [] = Matrix.ofSort tokens := by
  cases tokens <;> rfl

namespace Matrix

/-- The tokens of a sort are settled to what is read of them. -/
theorem settle_ofSort (tokens : List Value) :
    (settle {} [] (ofSort tokens)).result =
      (readSort {} [] false tokens).result.map ofSort := by
  cases tokens with
  | nil => rfl
  | cons token rest =>
      show (settle {} [] [(.text FieldName.sort, { eq := some (token :: rest) })]).result = _
      rw [settle, Logged.result_bind]
      show ((settleSort {} [] (token :: rest)).result >>= _) = _
      rw [settleSort, Logged.result_bind]
      cases (readSort {} [] false (token :: rest)).result with
      | error fault => rfl
      | ok values => cases values <;> rfl

end Matrix

/-- The sort that a result shows is that of its directive. -/
theorem paginationSort_assemble (filter : Mapping Value) (p : Option Pagination) :
    paginationSort (assemble filter [] p) =
      p.bind fun p => p.sort.map fun sort => (Value.ofOption .mapping sort).plain := by
  rw [paginationSort, find?_pagination_assemble]
  cases p with
  | none => rfl
  | some p => exact p.find?_sort_toMapping.1

/-- From a matrix for a sort alone to the sort that a result shows. -/
theorem Matrix.result_ofSort (tokens : List Value) (fallback : Value) :
    ((Matrix.settle {} [] (ofSort tokens)).result >>= fun settled =>
      Pagination.ofQuery settled.criteria [] false fallback >>= fun pagination =>
      .ok (assemble (filterOf settled.criteria) [] pagination)).map paginationSort =
    (sortOfTokens tokens).map (Option.map Value.mapping) := by
  unfold sortOfTokens
  rw [settle_ofSort]
  cases hread : (readSort {} [] false tokens).result with
  | error fault => rfl
  | ok values =>
      show Except.map paginationSort
        (Pagination.ofQuery (ofSort values).criteria [] false fallback >>= _) = _
      rw [Pagination.ofQuery_ofSort]
      cases values with
      | nil => rfl
      | cons v rest =>
          show Except.map paginationSort (Except.map _ (sortMapping (v :: rest)) >>= _) =
            Except.map _ (sortMapping (v :: rest) >>= fun sort => pure (some sort))
          cases hsort : sortMapping (v :: rest) with
          | error fault => rfl
          | ok sort =>
              -- what was read is an order, whose mapping is plain
              obtain ⟨d, order, hvalues, -⟩ := readSort_inv hread
              rw [hvalues] at hsort
              refine congrArg Except.ok ((paginationSort_assemble _ _).trans ?_)
              exact congrArg some (plain_of_sortMapping hsort)

/-- A request for a sort alone shows the sort that its text spells. -/
theorem compile_sort {s : String} (hs : s ≠ "") (hnull : isNullText s = false) (fallback : Value) :
    (compile {} fallback [(FieldName.sort, .text s)] []).result.map paginationSort =
      (spelledSort s).map (Option.map Value.mapping) := by
  unfold spelledSort
  rw [compile_schemaless_result, contributions_sort hs hnull]
  cases readValues (fun _ v => .ok v) .standard .eq (.text s) with
  | error fault => rfl
  | ok tokens =>
      have hresult := Matrix.result_ofSort tokens fallback
      rw [← Matrix.foldl_grow_sort] at hresult
      exact hresult

/-- **The sort of the settings is read as a request's sort is.** Where the settings have no page
fields, their configuration shows the sort that a request with the same text shows, with the same
fields and directions in the same order. Neither shows one, or both fail with the same fault,
otherwise. -/
theorem Settings.config_eq_compile {settings : Settings} {s : String}
    (hsort : settings.lookup sortName = some s) (hs : s ≠ "") (hnull : isNullText s = false)
    (hno : settings.lookup pageNoName = none) (hsize : settings.lookup pageSizeName = none)
    (fallback : Value) :
    settings.config.map paginationSort =
      (compile {} fallback [(FieldName.sort, .text s)] []).result.map paginationSort := by
  rw [paginationSort_config hsort hs hno hsize, compile_sort hs hnull]

/-- A sort with blanks around its direction. -/
def spacedSort : Settings := [("QS_SORT", "price| -1 ")]

theorem Settings.config_eq_compile_spacedSort :
    spacedSort.config.map paginationSort =
      .ok (some (.mapping [(.text "price", .int (-1))])) ∧
    spacedSort.config.map paginationSort =
      (compile {} (.int 1) [("sort", .text "price| -1 ")] []).result.map paginationSort :=
  ⟨by rfl, config_eq_compile rfl (by decide) (by decide) rfl rfl (.int 1)⟩

end QueryFilter
