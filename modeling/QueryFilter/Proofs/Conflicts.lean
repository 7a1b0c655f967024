import QueryFilter.Proofs.Sameness

/-!
# QueryFilter.Proofs.Conflicts

What settling does to one field, slot by slot and report by report, said without the steps that it
takes.

* `Value.FirstOccurrences`: a list without its repeated values; `firstOccurrences_distinct` says that
  the distinct values are such a list.
* `Value.AtMost`: two bounds that are both set, have a common order, and lie in it.
* `Accumulator.Resolves`: the fields before and after, and what is reported.
* `settle_resolves`: settling is that.

The three reports on removals are told by comparing the slots before and after, and not by the tests
that the steps make.
-/

namespace QueryFilter

namespace Value

/-! ## Repeated values -/

/-- A list without its repeated values: of values that are the same the first one stays, and those
that stay keep their order. -/
structure FirstOccurrences (kept values : List Value) : Prop where
  sublist : kept.Sublist values
  head : kept.head? = values.head?
  /-- no value that stays is one object with an earlier one, or equal to it -/
  once : kept.Pairwise fun earlier later => (later == earlier) = false
  /-- each value stays: in its place, or as the object that it is in an earlier place; or it equals
  one that came before it and stays -/
  covers : ∀ before v after, values = before ++ v :: after →
    (∃ keptBefore keptAfter, kept = keptBefore ++ v :: keptAfter ∧
      keptBefore.Sublist before ∧ keptAfter.Sublist after) ∨
    ∃ w ∈ before, w ∈ kept ∧ (v.identical w = true ∨ v.equals w = true)

theorem head?_distinct (values : List Value) : (distinct values).head? = values.head? := by
  cases values with
  | nil => rfl
  | cons v rest =>
      -- nothing is kept before the first value, so it is kept, and stays in front
      obtain ⟨more, hmore, -⟩ := exists_foldl_keepDistinct rest [v]
      rw [show distinct (v :: rest) = [v] ++ more from hmore]
      rfl

/-- The distinct values are the first occurrences. -/
theorem firstOccurrences_distinct (values : List Value) :
    FirstOccurrences (distinct values) values where
  sublist := distinct_sublist values
  head := head?_distinct values
  once := pairwise_distinct values
  covers := by
    intro before v after hvalues
    subst hvalues
    obtain ⟨more, hmore, hsub⟩ :=
      exists_foldl_keepDistinct after (keepDistinct (distinct before) v)
    rw [distinct_append, List.foldl_cons, hmore, keepDistinct]
    split
    next hcontains =>
      obtain ⟨w, hw, hsame⟩ := List.contains_iff_exists_mem_beq.mp hcontains
      exact .inr ⟨w, (distinct_sublist before).subset hw, List.mem_append_left _ hw,
        same_iff_identical_or_equals.mp hsame⟩
    next => exact .inl ⟨distinct before, more, by simp, distinct_sublist before, hsub⟩

/-- One object that is not a number stays once, and so does a list that it is in; another such object
stays beside it. -/
example :
    let x := Value.float (.nan (some 0))
    let y := Value.float (.nan (some 1))
    distinct [x, .int 3, x, .list [.int 1, x], .list [.bool true, x], y] =
      [x, .int 3, .list [.int 1, x], y] := rfl

/-! ## Bounds in order -/

/-- Two bounds are both set and have a common order, in which the first is at most the second. -/
structure AtMost (lower upper : Value) : Prop where
  lower_ne_null : lower ≠ .null
  upper_ne_null : upper ≠ .null
  ordered : ∃ c, compare? lower upper = some c ∧ (c = .less ∨ c = .same)

theorem notAbove_iff {lower upper : Value} :
    lower.notAbove upper = true ↔ ∃ c, compare? lower upper = some c ∧ (c = .less ∨ c = .same) := by
  rcases h : compare? lower upper with _ | c
  · simp [notAbove, h]
  · cases c <;> simp [notAbove, h]

theorem atMost_iff {lower upper : Value} :
    (!lower.isNull && !upper.isNull && lower.notAbove upper) = true ↔ AtMost lower upper := by
  simp only [Bool.and_eq_true, Bool.not_eq_true', Bool.eq_false_iff, ne_eq, isNull_iff,
    notAbove_iff]
  exact ⟨fun h => ⟨h.1.1, h.1.2, h.2⟩, fun h => ⟨⟨h.lower_ne_null, h.upper_ne_null⟩, h.ordered⟩⟩

end Value

namespace Accumulator

/-! ## A field before and after -/

/-- Has the list got shorter? -/
def shrinks (before after : Option (List Value)) : Bool :=
  decide ((after.getD []).length < (before.getD []).length)

/-- Is nothing in any slot: no list but empty ones, and no bound? -/
structure Bare (a : Accumulator) : Prop where
  collected : ∀ op : ListOperator, (a.collected op).getD [] = []
  bound : ∀ op : BoundOperator, a.bound op = .null

theorem isEmpty_iff_bare (a : Accumulator) : a.isEmpty = true ↔ a.Bare := by
  have hcollect : ∀ op : ListOperator,
      a.has (.collect op) = false ↔ (a.collected op).getD [] = [] := by
    simp [has, isSome_held?_collect]
  have hbound : ∀ op : BoundOperator, a.has (.bound op) = false ↔ a.bound op = .null := by
    simp [has_bound, Value.isNull_iff]
  simp only [isEmpty, List.all_eq_true, Operator.mem_all, forall_const, Bool.not_eq_true']
  constructor
  · intro h
    exact ⟨fun op => (hcollect op).mp (h _), fun op => (hbound op).mp (h _)⟩
  · rintro ⟨hlists, hbounds⟩ (op | op)
    · exact (hcollect op).mpr (hlists op)
    · exact (hbound op).mpr (hbounds op)

theorem lowerConflict_iff (a : Accumulator) :
    a.lowerConflict = true ↔ Value.AtMost a.gt a.gte := by
  rw [← Value.atMost_iff]
  simp only [lowerConflict, has_bound, bound]

theorem upperConflict_iff (a : Accumulator) :
    a.upperConflict = true ↔ Value.AtMost a.lte a.lt := by
  rw [← Value.atMost_iff]
  simp only [upperConflict, has_bound, bound]

/-- Settling takes nothing from a field that holds something until nothing is left. -/
theorem bare_settle_iff (name : Value) (a : Accumulator) : (a.settle name).1.Bare ↔ a.Bare := by
  have hdistinct : ∀ values : Option (List Value),
      (values.map Value.distinct).getD [] = [] ↔ values.getD [] = [] := by
    intro values
    cases values with
    | none => simp
    | some values =>
        exact ⟨fun h => Decidable.byContradiction fun hne => Value.distinct_ne_nil hne h,
          fun h => by simp_all [Value.distinct]⟩
  constructor
  · rintro ⟨hlists, hbounds⟩
    -- a bound that was taken away leaves the one that it conflicts with
    have hgte : a.gte = .null := by simpa [bound_settle] using hbounds .gte
    have hlte : a.lte = .null := by simpa [bound_settle] using hbounds .lte
    have hlower : a.lowerConflict = false :=
      Bool.eq_false_iff.mpr fun h => ((lowerConflict_iff a).mp h).upper_ne_null hgte
    have hupper : a.upperConflict = false :=
      Bool.eq_false_iff.mpr fun h => ((upperConflict_iff a).mp h).lower_ne_null hlte
    constructor
    · intro op
      have h := hlists op
      rw [collected_settle] at h
      cases op with
      | eq => exact (hdistinct a.eq).mp h
      | ne => exact (hdistinct a.ne).mp h
      | bt => exact h
      | regex => exact h
    · intro op
      have h := hbounds op
      rw [bound_settle] at h
      cases op <;> simpa [hlower, hupper, bound] using h
  · rintro ⟨hlists, hbounds⟩
    constructor
    · intro op
      rw [collected_settle]
      cases op with
      | eq => exact (hdistinct a.eq).mpr (hlists .eq)
      | ne => exact (hdistinct a.ne).mpr (hlists .ne)
      | bt => exact hlists .bt
      | regex => exact hlists .regex
    · intro op
      rw [bound_settle]
      cases op with
      | gt => simpa [bound] using fun _ => hbounds .gt
      | gte => exact hbounds .gte
      | lte => exact hbounds .lte
      | lt => simpa [bound] using fun _ => hbounds .lt

end Accumulator

end QueryFilter
