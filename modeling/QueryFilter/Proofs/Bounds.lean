import QueryFilter.Proofs.Gathering

/-!
# QueryFilter.Proofs.Bounds

What an operator keeps of bounds that are integers: the tightest of them, however they came.

* `Value.integer?`: the integer that a bound is worth.
* `BoundOperator.Tightens`: the order of an operator's bounds.
* `BoundOperator.Tightest`: the tightest of several bounds.
* `BoundOperator.Retains`: the invariant of combining bounds, what is kept is the tightest so far.
* `BoundOperator.Retains.exists_foldlM_combine?`: integers can always be combined, and this is kept of them.
-/

namespace QueryFilter

/-- The integer that a value is worth. Truth values are worth one and zero. -/
def Value.integer? : Value → Option Int
  | .int n => some n
  | .bool b => some (if b then 1 else 0)
  | _ => none

theorem Value.compare?_of_integer? {v w : Value} {m n : Int} (hv : v.integer? = some m)
    (hw : w.integer? = some n) : v.compare? w = some (.ofInts m n) := by
  cases v <;> cases w <;> simp only [integer?, Option.some.injEq, reduceCtorEq] at hv hw <;>
    subst hv hw <;> rfl

theorem Value.isNull_of_integer? {v : Value} {n : Int} (hv : v.integer? = some n) :
    v.isNull = false := by
  cases v <;> first | rfl | exact nomatch hv

namespace BoundOperator

/-! ## The order of bounds -/

/-- Does the first of two bounds ask for no less than the second? -/
def Tightens (op : BoundOperator) (m n : Int) : Prop :=
  if op.keepsGreatest then n ≤ m else m ≤ n

theorem Tightens.refl (op : BoundOperator) (n : Int) : op.Tightens n n := by
  simp only [Tightens]
  split <;> exact Int.le_refl n

theorem Tightens.trans {op : BoundOperator} {k m n : Int} (h : op.Tightens k m)
    (h' : op.Tightens m n) : op.Tightens k n := by
  unfold Tightens at *
  split at h
  next hg =>
    rw [if_pos hg] at *
    exact Int.le_trans h' h
  next hg =>
    rw [if_neg hg] at *
    exact Int.le_trans h h'

/-- The direction in which a bound has to lie to be kept. -/
def wanted (op : BoundOperator) : Comparison := if op.keepsGreatest then .greater else .less

/-- The bound that replaces another one is the tighter one, and else the other one is. -/
theorem tightens_of_ofInts (op : BoundOperator) (m n : Int) :
    (Comparison.ofInts n m = op.wanted → op.Tightens n m) ∧
      (Comparison.ofInts n m ≠ op.wanted → op.Tightens m n) := by
  unfold wanted Tightens Comparison.ofInts
  cases op.keepsGreatest with
  | true =>
      constructor
      · intro h
        split at h
        · exact nomatch h
        · simp only [if_true]
          omega
      · intro h
        simp only [if_true] at *
        split at h
        · omega
        · split at h
          · omega
          · exact absurd rfl h
  | false =>
      constructor
      · intro h
        split at h
        · simp only [Bool.false_eq_true, if_false]
          omega
        · split at h <;> exact nomatch h
      · intro h
        simp only [Bool.false_eq_true, if_false] at *
        split at h
        · exact absurd rfl h
        · omega

/-! ## The tightest bound -/

/-- The value is one of several bounds, and the integer it is worth asks for no less than any of
theirs. -/
structure Tightest (op : BoundOperator) (values : List Value) (v : Value) (n : Int) : Prop where
  mem : v ∈ values
  worth : v.integer? = some n
  tightens : ∀ w ∈ values, ∀ m, w.integer? = some m → op.Tightens n m

theorem Tightest.singleton (op : BoundOperator) {v : Value} {n : Int} (hv : v.integer? = some n) :
    op.Tightest [v] v n where
  mem := List.mem_singleton_self v
  worth := hv
  tightens w hw m hm := by
    rw [List.mem_singleton.mp hw, hv] at hm
    obtain rfl := Option.some.inj hm
    exact .refl op n

/-- One more bound: it is kept or it is not, and what is kept is the tightest. -/
theorem Tightest.exists_replaceIf? {op : BoundOperator} {values : List Value} {v w : Value}
    {n m : Int} (h : op.Tightest values v n) (hw : w.integer? = some m) :
    ∃ u k, v.replaceIf? op.wanted w = some u ∧ op.Tightest (values ++ [w]) u k := by
  unfold Value.replaceIf?
  rw [Value.compare?_of_integer? hw h.worth, Option.map_some]
  by_cases hwanted : Comparison.ofInts m n = op.wanted
  · -- the new bound is tighter, and so are the bounds below the old one
    have hmn := (tightens_of_ofInts op n m).1 hwanted
    refine ⟨w, m, by rw [if_pos hwanted], by simp, hw, fun u hu k hk => ?_⟩
    rcases List.mem_append.mp hu with hu | hu
    · exact hmn.trans (h.tightens u hu k hk)
    · exact (Tightest.singleton op hw).tightens u hu k hk
  · have hnm := (tightens_of_ofInts op n m).2 hwanted
    refine ⟨v, n, by rw [if_neg hwanted], List.mem_append_left _ h.mem, h.worth,
      fun u hu k hk => ?_⟩
    rcases List.mem_append.mp hu with hu | hu
    · exact h.tightens u hu k hk
    · exact hnm.trans ((Tightest.singleton op hw).tightens u hu k hk)

theorem Tightest.exists_extreme? {op : BoundOperator} {values more : List Value} {v : Value}
    {n : Int} (h : op.Tightest values v n) (hmore : ∀ w ∈ more, ∃ m, w.integer? = some m) :
    ∃ u k, Value.extreme? op.wanted v more = some u ∧ op.Tightest (values ++ more) u k := by
  unfold Value.extreme?
  induction more generalizing values v n with
  | nil => exact ⟨v, n, rfl, by simpa using h⟩
  | cons w more ih =>
      obtain ⟨m, hw⟩ := hmore w List.mem_cons_self
      obtain ⟨v', n', hv', h'⟩ := h.exists_replaceIf? hw
      obtain ⟨u, k, hu, hk⟩ := ih h' fun x hx => hmore x (List.mem_cons_of_mem w hx)
      refine ⟨u, k, ?_, by simpa using hk⟩
      rw [List.foldlM_cons, hv']
      exact hu

/-! ## What is kept -/

/-- What an operator keeps of bounds that are integers: the tightest of them, and null if there are
none. -/
inductive Retains (op : BoundOperator) : Value → List Value → Prop where
  | none : Retains op .null []
  | tightest {v : Value} {n : Int} {values : List Value} :
      op.Tightest values v n → Retains op v values

/-- The values of one contribution are combined with what is kept. -/
theorem Retains.exists_combine? {op : BoundOperator} {bound : Value} {values new : List Value}
    (h : op.Retains bound values) (hne : new ≠ [])
    (hnew : ∀ w ∈ new, ∃ m, w.integer? = some m) :
    ∃ v, op.combine? bound new = some v ∧ op.Retains v (values ++ new) := by
  cases h with
  | none =>
      cases new with
      | nil => exact absurd rfl hne
      | cons w new =>
          -- the first value stands for null before the others are combined with it
          obtain ⟨m, hw⟩ := hnew w List.mem_cons_self
          obtain ⟨u, k, hu, hk⟩ := (Tightest.singleton op hw).exists_extreme?
            fun x hx => hnew x (List.mem_cons_of_mem w hx)
          exact ⟨u, hu, .tightest hk⟩
  | tightest h =>
      obtain ⟨u, k, hu, hk⟩ := h.exists_extreme? hnew
      refine ⟨u, ?_, .tightest hk⟩
      unfold combine?
      rw [Value.isNull_of_integer? h.worth]
      exact hu

/-- Integers can be combined one list after the other, and the tightest of them all is kept. -/
theorem Retains.exists_foldlM_combine? {op : BoundOperator} {bound : Value} {values : List Value}
    {lists : List (List Value)} (h : op.Retains bound values) (hne : ∀ new ∈ lists, new ≠ [])
    (hlists : ∀ w ∈ lists.flatten, ∃ m, w.integer? = some m) :
    ∃ v, lists.foldlM op.combine? bound = some v ∧ op.Retains v (values ++ lists.flatten) := by
  induction lists generalizing bound values with
  | nil => exact ⟨bound, rfl, by simpa using h⟩
  | cons new rest ih =>
      rw [List.flatten_cons] at hlists
      obtain ⟨u, hu, h⟩ := h.exists_combine? (hne new List.mem_cons_self)
        fun w hw => hlists w (List.mem_append_left _ hw)
      obtain ⟨v, hv, h⟩ := ih h (fun l hl => hne l (List.mem_cons_of_mem _ hl))
        fun w hw => hlists w (List.mem_append_right _ hw)
      refine ⟨v, ?_, by simpa using h⟩
      rw [List.foldlM_cons, hu]
      exact hv

end BoundOperator

end QueryFilter
