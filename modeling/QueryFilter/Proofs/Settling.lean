import QueryFilter.Conflict
import QueryFilter.Proofs.Mapping

/-!
# QueryFilter.Proofs.Settling

One field after its conflicts are settled, operator by operator.

* `distinct_sublist`, `pairwise_distinct`: the distinct values are some of the values, each once.
* `distinct_concat_of_new`, `distinct_ne_nil`: the last of the distinct values.
* `find?_criteria`: what a field shows for an operator is the value that it holds.
* `bound_settle`, `collected_settle`: which bounds and lists a settled field has.
* `lowerConflict_settle`, `upperConflict_settle`: none of its bounds makes another one void.
* `settle_reports_eq_nil_iff`: when nothing is reported of a field.
* `settle_eq_self`: a field of which nothing is reported is left as it is.
-/

namespace QueryFilter

namespace Value

theorem isNull_iff {v : Value} : v.isNull = true ↔ v = .null := by
  cases v <;> simp [isNull]

/-! ## Distinct values -/

/-- One more value, unless the same one is there. -/
def keepDistinct (kept : List Value) (v : Value) : List Value :=
  if kept.contains v then kept else kept ++ [v]

/-- Reading on adds to what is kept, at its end and in order. -/
theorem exists_foldl_keepDistinct (values kept : List Value) :
    ∃ more, values.foldl keepDistinct kept = kept ++ more ∧ more.Sublist values := by
  induction values generalizing kept with
  | nil => exact ⟨[], by simp, List.Sublist.refl _⟩
  | cons v rest ih =>
      obtain ⟨more, hmore, hsub⟩ := ih (keepDistinct kept v)
      rw [List.foldl_cons, hmore, keepDistinct]
      split
      next => exact ⟨more, rfl, hsub.cons v⟩
      next => exact ⟨v :: more, by simp, hsub.cons_cons v⟩

/-- The distinct values are some of the values, in order. -/
theorem distinct_sublist (values : List Value) : (distinct values).Sublist values := by
  obtain ⟨more, hmore, hsub⟩ := exists_foldl_keepDistinct values []
  exact (show distinct values = more from hmore) ▸ hsub

/-- A list that does not get shorter by dropping repeated values has none. -/
theorem distinct_eq_self_iff {values : List Value} :
    distinct values = values ↔ ¬(distinct values).length < values.length := by
  constructor
  · intro h
    rw [h]
    exact Nat.lt_irrefl _
  · intro h
    exact (distinct_sublist values).eq_of_length_le (Nat.not_lt.mp h)

/-- Values of which no two are the same are all kept. -/
theorem distinct_of_pairwise {values : List Value}
    (h : values.Pairwise fun a b => (b == a) = false) : distinct values = values := by
  -- the induction is on what is still to be read, beside what is already kept
  suffices hfold : ∀ kept : List Value, (∀ a ∈ kept, ∀ b ∈ values, (b == a) = false) →
      values.foldl keepDistinct kept = kept ++ values from hfold [] (by simp)
  induction values with
  | nil => simp
  | cons v values ih =>
      intro kept hkept
      obtain ⟨hv, hvalues⟩ := List.pairwise_cons.mp h
      have hstep : keepDistinct kept v = kept ++ [v] := by
        have hnew : ¬kept.contains v = true := by
          rw [List.contains_iff_exists_mem_beq]
          intro hgiven
          obtain ⟨a, ha, hva⟩ := hgiven
          rw [hkept a ha v List.mem_cons_self] at hva
          exact nomatch hva
        simp only [keepDistinct]
        rw [if_neg hnew]
      rw [List.foldl_cons, hstep, ih hvalues, List.append_assoc, List.singleton_append]
      intro a ha b hb
      rcases List.mem_append.mp ha with ha | ha
      · exact hkept a ha b (List.mem_cons_of_mem _ hb)
      · rw [List.mem_singleton.mp ha]
        exact hv b hb

/-- One more value keeps apart what is kept. -/
theorem pairwise_keepDistinct {kept : List Value}
    (h : kept.Pairwise fun earlier later => (later == earlier) = false) (v : Value) :
    (keepDistinct kept v).Pairwise fun earlier later => (later == earlier) = false := by
  unfold keepDistinct
  split
  next => exact h
  next hnew =>
    rw [List.contains_iff_exists_mem_beq, not_exists] at hnew
    refine List.pairwise_append.mpr ⟨h, List.pairwise_singleton _ _, fun a ha b hb => ?_⟩
    rw [List.mem_singleton.mp hb, Bool.eq_false_iff]
    exact fun heq => hnew a ⟨ha, heq⟩

/-- No distinct value is the same as an earlier one. -/
theorem pairwise_distinct (values : List Value) :
    (distinct values).Pairwise fun earlier later => (later == earlier) = false := by
  suffices h : ∀ kept : List Value,
      kept.Pairwise (fun earlier later => (later == earlier) = false) →
        (values.foldl keepDistinct kept).Pairwise fun earlier later => (later == earlier) = false from
    h [] List.Pairwise.nil
  induction values with
  | nil => exact fun _ h => h
  | cons v values ih => exact fun kept h => ih _ (pairwise_keepDistinct h v)

theorem distinct_append (values rest : List Value) :
    distinct (values ++ rest) = rest.foldl keepDistinct (distinct values) :=
  List.foldl_append

theorem distinct_concat (values : List Value) (v : Value) :
    distinct (values ++ [v]) = keepDistinct (distinct values) v :=
  distinct_append values [v]

/-- A value that is not the same as an earlier one is the last of the distinct values. -/
theorem distinct_concat_of_new {values : List Value} {v : Value}
    (h : values.contains v = false) : distinct (values ++ [v]) = distinct values ++ [v] := by
  rw [distinct_concat, keepDistinct, if_neg]
  rw [List.contains_iff_exists_mem_beq]
  rintro ⟨a, ha, hva⟩
  have hcontains := List.contains_iff_exists_mem_beq.mpr ⟨a, (distinct_sublist _).subset ha, hva⟩
  exact nomatch h.symm.trans hcontains

theorem distinct_ne_nil {values : List Value} (h : values ≠ []) : distinct values ≠ [] := by
  rw [← List.dropLast_concat_getLast h, distinct_concat, keepDistinct]
  split
  next hcontains =>
    obtain ⟨a, ha, -⟩ := List.contains_iff_exists_mem_beq.mp hcontains
    exact List.ne_nil_of_mem ha
  next => exact List.append_ne_nil_of_right_ne_nil _ (List.cons_ne_nil _ _)

end Value

namespace Operator

/-- An operator stands in the list of all operators once. -/
theorem filterMap_all_ite {α : Type} (f : Operator → Option α) (op : Operator) :
    all.filterMap (fun o => if o = op then f o else none) = (f op).toList := by
  cases hf : f op with
  | none =>
      rw [Option.toList_none, List.filterMap_eq_nil_iff]
      intro o _
      split
      next ho => rw [ho, hf]
      next => rfl
  | some v => rcases op with op | op <;> cases op <;> simp [all, hf]

theorem name_injective {op other : Operator} (h : op.name = other.name) : op = other := by
  have hother := ofName?_name other
  rw [← h, ofName?_name] at hother
  exact Option.some.inj hother

end Operator

namespace Accumulator

/-! ## What a field shows -/

theorem held?_bound (a : Accumulator) (op : BoundOperator) :
    a.held? (.bound op) = if (a.bound op).isNull then none else some (a.bound op) := by
  unfold held?
  rfl

theorem has_bound (a : Accumulator) (op : BoundOperator) :
    a.has (.bound op) = !(a.bound op).isNull := by
  rw [has, held?_bound]
  cases (a.bound op).isNull <;> rfl

theorem held?_collect (a : Accumulator) (op : ListOperator) :
    a.held? (.collect op) =
      if (a.collected op).getD [] = [] then none else some (.list ((a.collected op).getD [])) := by
  cases hvalues : a.collected op with
  | none => simp [held?, hvalues]
  | some values => cases values <;> simp [held?, hvalues]

theorem isSome_held?_collect (a : Accumulator) (op : ListOperator) :
    (a.held? (.collect op)).isSome = !((a.collected op).getD []).isEmpty := by
  rw [held?_collect]
  cases (a.collected op).getD [] <;> rfl

/-- An empty field lists nothing. -/
theorem collected_of_isEmpty {a : Accumulator} (h : a.isEmpty = true) (op : ListOperator) :
    (a.collected op).getD [] = [] := by
  have hop := List.all_eq_true.mp h (.collect op) (Operator.mem_all _)
  unfold has at hop
  rw [isSome_held?_collect, Bool.not_not] at hop
  exact List.isEmpty_iff.mp hop

theorem held?_collect_eq_some {a : Accumulator} {op : ListOperator} {v : Value}
    (h : a.held? (.collect op) = some v) :
    ∃ values, a.collected op = some values ∧ values ≠ [] ∧ v = .list values := by
  rw [held?_collect] at h
  split at h
  next => exact nomatch h
  next hne =>
    cases hvalues : a.collected op with
    | none =>
        rw [hvalues] at hne
        exact absurd rfl hne
    | some values =>
        rw [hvalues] at h hne
        exact ⟨values, rfl, hne, (Option.some.inj h).symm⟩

theorem held?_bound_eq_some {a : Accumulator} {op : BoundOperator} {v : Value}
    (h : a.held? (.bound op) = some v) : a.bound op = v ∧ v ≠ .null := by
  rw [held?_bound] at h
  split at h
  next => exact nomatch h
  next hnull =>
    obtain rfl := Option.some.inj h
    exact ⟨rfl, fun heq => hnull (Value.isNull_iff.mpr heq)⟩

/-- What a field shows for an operator is the value that it holds. -/
theorem find?_criteria (a : Accumulator) (op : Operator) :
    Mapping.find? op.name a.criteria = a.held? op := by
  have hpick : ∀ o : Operator,
      ((a.held? o).map (Value.text o.name, ·)).bind
        (fun e => if Value.text op.name == e.1 then some e.2 else none) =
      if o = op then a.held? o else none := by
    intro o
    by_cases ho : o = op
    · subst ho
      cases a.held? o <;> simp [Value.sameText]
    · have hne : ¬(Value.text op.name == Value.text o.name) = true := fun he =>
        ho (Operator.name_injective (Value.text.inj (Value.text_beq_iff.mp he)))
      cases a.held? o <;> simp_all
  rw [Mapping.find?_eq_head?_allAt, Mapping.allAt, criteria, List.filterMap_filterMap]
  simp only [hpick]
  rw [Operator.filterMap_all_ite]
  cases a.held? op <;> rfl

/-- A field shows the operators that it holds something for, in their order. -/
theorem keys_criteria (a : Accumulator) :
    Mapping.keys a.criteria = (Operator.all.filter a.has).map fun op => .text op.name := by
  unfold criteria
  induction Operator.all with
  | nil => rfl
  | cons op ops ih =>
      unfold Mapping.keys at *
      cases h : a.held? op with
      | none => simp [has, h, ih]
      | some v => simp [has, h, ih]

/-! ## What settling changes -/

/-- Does the field hold a lower bound that says no more than the other one? -/
def lowerConflict (a : Accumulator) : Bool := a.has .gt && a.has .gte && a.gt.notAbove a.gte

/-- Does the field hold an upper bound that gives way to the other one? -/
def upperConflict (a : Accumulator) : Bool := a.has .lte && a.has .lt && a.lte.notAbove a.lt

/-- The field with its values listed once. -/
def once (a : Accumulator) : Accumulator :=
  { a with eq := a.eq.map Value.distinct, ne := a.ne.map Value.distinct }

theorem withoutLowerConflict_eq (name : Value) (a : Accumulator) :
    a.withoutLowerConflict name =
      ({ a with gt := if a.lowerConflict then .null else a.gt },
        if a.lowerConflict then [.lowerBoundRemoved name] else []) := by
  simp only [withoutLowerConflict]
  show (if a.lowerConflict = true then _ else _) = _
  split <;> rfl

theorem withoutUpperConflict_eq (name : Value) (a : Accumulator) :
    a.withoutUpperConflict name =
      ({ a with lt := if a.upperConflict then .null else a.lt },
        if a.upperConflict then [.upperBoundRemoved name] else []) := by
  simp only [withoutUpperConflict]
  show (if a.upperConflict = true then _ else _) = _
  split <;> rfl

/-- A settled field: its values once each, and no bound that another one makes void. -/
theorem settle_fst (name : Value) (a : Accumulator) :
    (a.settle name).1 =
      { a.once with
        gt := if a.lowerConflict then .null else a.gt
        lt := if a.upperConflict then .null else a.lt } := by
  show ((a.once.withoutLowerConflict name).1.withoutUpperConflict name).1 = _
  rw [withoutLowerConflict_eq, withoutUpperConflict_eq]
  rfl

theorem settle_snd (name : Value) (a : Accumulator) :
    (a.settle name).2 =
      (a.withoutDuplicates name).2 ++
        (if a.lowerConflict then [.lowerBoundRemoved name] else []) ++
        (if a.upperConflict then [.upperBoundRemoved name] else []) ++
        (a.settle name).1.reportEmpty name := by
  show (a.withoutDuplicates name).2 ++ (a.once.withoutLowerConflict name).2 ++
    ((a.once.withoutLowerConflict name).1.withoutUpperConflict name).2 ++ _ = _
  rw [withoutLowerConflict_eq, withoutUpperConflict_eq]
  rfl

/-- Which bounds a settled field has. -/
theorem bound_settle (name : Value) (a : Accumulator) (op : BoundOperator) :
    (a.settle name).1.bound op =
      match op with
      | .gt => if a.lowerConflict then .null else a.gt
      | .gte => a.gte
      | .lte => a.lte
      | .lt => if a.upperConflict then .null else a.lt := by
  rw [settle_fst]
  cases op <;> rfl

/-- Which lists a settled field has. -/
theorem collected_settle (name : Value) (a : Accumulator) (op : ListOperator) :
    (a.settle name).1.collected op =
      match op with
      | .eq => a.eq.map Value.distinct
      | .ne => a.ne.map Value.distinct
      | .bt => a.bt
      | .regex => a.regex := by
  rw [settle_fst]
  cases op <;> rfl

/-- Settling adds no value under equality to a field that lists none. -/
theorem eq_settle_of_eq_nil {a : Accumulator} (h : a.eq.getD [] = []) (name : Value) :
    (a.settle name).1.eq.getD [] = [] := by
  have heq := collected_settle name a .eq
  change (a.settle name).1.eq = a.eq.map Value.distinct at heq
  have hdistinct := Option.getD_map Value.distinct [] a.eq
  rw [h] at hdistinct
  rw [heq]
  exact hdistinct

/-- A settled field that holds both lower bounds needs both. -/
theorem lowerConflict_settle (name : Value) (a : Accumulator) :
    (a.settle name).1.lowerConflict = false := by
  rw [settle_fst]
  cases h : a.lowerConflict with
  | true => rfl
  | false => exact h

/-- A settled field that holds both upper bounds needs both. -/
theorem upperConflict_settle (name : Value) (a : Accumulator) :
    (a.settle name).1.upperConflict = false := by
  rw [settle_fst]
  cases h : a.upperConflict with
  | true => simp [upperConflict, has_bound, bound, Value.isNull]
  | false => exact h

/-! ## Fields of which nothing is reported -/

theorem once_eq_self_iff (a : Accumulator) :
    a.once = a ↔ a.eq.map Value.distinct = a.eq ∧ a.ne.map Value.distinct = a.ne := by
  cases a
  simp [once]

/-- Dropping repeated values is reported, unless there are none. -/
theorem withoutDuplicates_snd_eq_nil_iff (name : Value) (a : Accumulator) :
    (a.withoutDuplicates name).2 = [] ↔ a.once = a := by
  have hlist : ∀ values : Option (List Value),
      (Value.distinct (values.getD [])).length < (values.getD []).length ↔
        values.map Value.distinct ≠ values := by
    intro values
    cases values with
    | none => simp [Value.distinct]
    | some values =>
        rw [Option.map_some, Option.getD_some, Ne, Option.some_inj, Value.distinct_eq_self_iff,
          Classical.not_not]
  rw [once_eq_self_iff]
  unfold withoutDuplicates
  dsimp only
  rw [ite_eq_right_iff]
  simp [hlist]

/-- Nothing is reported of a field exactly when its values differ, its bounds do not conflict, and
it holds something. -/
theorem settle_reports_eq_nil_iff (name : Value) (a : Accumulator) :
    (a.settle name).2 = [] ↔
      a.once = a ∧ a.lowerConflict = false ∧ a.upperConflict = false ∧ a.isEmpty = false := by
  rw [settle_snd, List.append_eq_nil_iff, List.append_eq_nil_iff, List.append_eq_nil_iff,
    withoutDuplicates_snd_eq_nil_iff, settle_fst]
  constructor
  · intro hgiven
    obtain ⟨⟨⟨honce, hlower⟩, hupper⟩, hempty⟩ := hgiven
    have hl : a.lowerConflict = false := by
      cases h : a.lowerConflict with
      | false => rfl
      | true => rw [h] at hlower; exact nomatch hlower
    have hu : a.upperConflict = false := by
      cases h : a.upperConflict with
      | false => rfl
      | true => rw [h] at hupper; exact nomatch hupper
    refine ⟨honce, hl, hu, ?_⟩
    -- with nothing dropped it is the accumulator itself that is empty or not
    rw [honce, hl, hu] at hempty
    cases h : a.isEmpty with
    | false => rfl
    | true =>
        change (if a.isEmpty = true then _ else _) = _ at hempty
        rw [if_pos h] at hempty
        exact nomatch hempty
  · intro hgiven
    obtain ⟨honce, hl, hu, hempty⟩ := hgiven
    rw [honce, hl, hu]
    refine ⟨⟨⟨rfl, rfl⟩, rfl⟩, ?_⟩
    show (if a.isEmpty = true then _ else _) = _
    rw [hempty]
    rfl

/-- A field of which nothing is reported is left as it is. -/
theorem settle_eq_self {name : Value} {a : Accumulator} (h : (a.settle name).2 = []) :
    (a.settle name).1 = a := by
  obtain ⟨honce, hl, hu, -⟩ := (settle_reports_eq_nil_iff name a).mp h
  rw [settle_fst, honce, hl, hu]
  rfl

end Accumulator

end QueryFilter
