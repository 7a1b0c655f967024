import QueryFilter.Proofs.Compiling
import QueryFilter.Proofs.Settling
import QueryFilter.Proofs.SortOrder

/-!
# QueryFilter.Proofs.NormalForm

Settling has nothing left to do after it was done: a settled matrix is in normal form.

A field that was settled lists its values once and holds no bound that another one makes void, which
is all that settling mends. A sort that was read is an order, and an order is read as itself.

* `Accumulator.settle_settle_self`: one field, settled again.
* `Matrix.settleField_kept`: one field of a matrix, the sort included.
* `Matrix.settle_settled`: a whole matrix.
-/

namespace QueryFilter

/-- Distinct values are all kept. -/
theorem Value.distinct_distinct (values : List Value) : distinct (distinct values) = distinct values :=
  distinct_of_pairwise (pairwise_distinct values)

namespace Accumulator

/-- The values of a settled field are listed once. -/
theorem once_settle (name : Value) (a : Accumulator) :
    (a.settle name).1.once = (a.settle name).1 := by
  have htwice : ∀ values : Option (List Value),
      (values.map Value.distinct).map Value.distinct = values.map Value.distinct := by
    intro values
    cases values with
    | none => rfl
    | some values => exact congrArg some (Value.distinct_distinct values)
  rw [once_eq_self_iff, settle_fst]
  exact ⟨htwice a.eq, htwice a.ne⟩

/-- A settled field that holds something is settled to itself, and nothing is reported. -/
theorem settle_settle_self {name : Value} {a : Accumulator} (h : (a.settle name).1.isEmpty = false) :
    (a.settle name).1.settle name = ((a.settle name).1, []) := by
  have hreports : ((a.settle name).1.settle name).2 = [] := by
    rw [settle_reports_eq_nil_iff]
    exact ⟨once_settle name a, lowerConflict_settle name a, upperConflict_settle name a, h⟩
  exact Prod.ext (settle_eq_self hreports) hreports

end Accumulator

namespace Matrix

/-- What is kept of a field is kept as it is. -/
theorem settleField_kept {s : Schema} (hs : s.checksSort = false) {cfg : Config} {name : Value}
    {a b : Accumulator} (h : (settleField s cfg name a).result = .ok (some b)) :
    settleField s cfg name b = ⟨[], .ok (some b)⟩ := by
  unfold settleField at h
  dsimp only at h
  split at h
  next hsort =>
    -- a sort: what was read is an order of tokens that name fields
    rw [Bool.and_eq_true] at hsort
    unfold settleSort at h
    obtain ⟨values, hread, h⟩ := Logged.result_bind_ok h
    cases values with
    | nil => exact nomatch h
    | cons v values =>
        obtain rfl := Option.some.inj (Except.ok.inj h)
        obtain ⟨d, order, hvalues, hfields⟩ := readSort_inv hread
        have hne : order ≠ [] := by
          rintro rfl
          exact nomatch hvalues
        have hread : ∀ e ∈ order, SortToken.read e.1 = .ok .field := by
          intro e he
          obtain ⟨token, -, hfield, hname⟩ := hfields e he
          rw [Schema.sortField?_of_unchecked hs] at hname
          rw [← Option.some.inj (Except.ok.inj hname)]
          exact hfield
        have hagain := settleField_values hs cfg hsort.1 hne hread
        change v :: values = order.values at hvalues
        rwa [← hvalues] at hagain
  next hsort =>
    have hkept := Except.ok.inj h
    split at hkept
    next => exact nomatch hkept
    next hne =>
      obtain rfl := Option.some.inj hkept
      rw [Bool.not_eq_true] at hne
      -- a sort without a token is settled as other fields are, and has none afterwards
      have hsettled : (FieldName.isSort name &&
          !((a.settle name).1.eq.getD []).isEmpty) = false := by
        rw [Bool.and_eq_true, not_and, Bool.not_eq_true, Bool.not_eq_false'] at hsort
        cases hname : FieldName.isSort name with
        | false => rfl
        | true =>
            rw [a.eq_settle_of_eq_nil (List.isEmpty_iff.mp (hsort hname)) name]
            rfl
      unfold settleField
      dsimp only
      rw [hsettled, Accumulator.settle_settle_self hne, hne]
      rfl

/-- **Settling leads to a normal form.** Where the fields of a sort are not looked up, a settled
matrix is settled to itself, field by field and slot by slot, and nothing is reported. -/
theorem settle_settled {s : Schema} (hs : s.checksSort = false) {cfg : Config} {m settled : Matrix}
    (h : (m.settle s cfg).result = .ok settled) :
    settled.settle s cfg = ⟨[], .ok settled⟩ := by
  refine settle_eq_self fun e he => ?_
  obtain ⟨a, -, hkept⟩ := mem_of_mem_settle h he
  exact settleField_kept hs hkept

/-- A sort with a direction before the first field and one that is left out, values that are the
same in different types, and bounds that conflict on one side only. -/
def looseMatrix : Matrix :=
  [(.text "sort", { eq := some [.int 1, .text "price", .text "name", .text "-1", .null] }),
    (.text "code", { eq := some [.int 1, .bool true, .list [.int 1], .list [.bool true]]
                     gt := .int 5, gte := .int 7, lte := .int 9, lt := .text "a" }),
    (.text "note", { ne := some [] })]

/-- The matrix without what it says twice. -/
def normalMatrix : Matrix :=
  [(.text "sort", { eq := some [.text "price", .int 1, .text "name", .int (-1)] }),
    (.text "code", { eq := some [.int 1, .list [.int 1]]
                     gte := .int 7, lte := .int 9, lt := .text "a" })]

theorem settle_normalMatrix :
    (looseMatrix.settle {} []).result = .ok normalMatrix ∧
    normalMatrix.settle {} [] = ⟨[], .ok normalMatrix⟩ := by
  have h : (looseMatrix.settle {} []).result = .ok normalMatrix := by rfl
  exact ⟨h, settle_settled rfl h⟩

end Matrix

end QueryFilter
