import QueryFilter.Default
import QueryFilter.Sort
import QueryFilter.Proofs.Entries

/-!
# QueryFilter.Proofs.SortMapping

A sort is a mapping from fields to directions, or a list in which fields and directions alternate.
A mapping is flattened to a list, and a list is put into a mapping, which need not have been made of
one: fields may come again, and the last one may have no direction. A field comes again where it is
one object with an earlier one or equals it, which is how a mapping finds its keys.

* `sortEntries`: the fields of a list by their positions, each with what follows it.
* `sortMapping_eq_ofEntries`: a list is put into a mapping by setting these one after the other.
* `sortEntries_flattenSort`, `flattenSort_sortEntries`: a flattened mapping has its entries.
* `sortMapping_flattenSort_inverse`: where the two ways undo each other.
* `not_flattenSort_of_unequal_fields`: fields that do not equal each other may still be one key.
-/

namespace QueryFilter

theorem Value.asKey_of_keyObstacle? {v : Value} (h : v.keyObstacle? = none) : v.asKey = .ok v := by
  unfold asKey
  rw [h]

/-! ## Lists -/

/-- The elements of a list at even positions, each with the element that follows it; null follows the
last one of a list of odd length. -/
def sortEntries (values : List Value) : Mapping Value :=
  (List.range ((values.length + 1) / 2)).filterMap fun i =>
    values[2 * i]?.map fun field => (field, values[2 * i + 1]?.getD .null)

theorem sortEntries_singleton (field : Value) : sortEntries [field] = [(field, .null)] := by
  simp [sortEntries]

theorem sortEntries_cons_cons (field direction : Value) (rest : List Value) :
    sortEntries (field :: direction :: rest) = (field, direction) :: sortEntries rest := by
  have hcount : ((field :: direction :: rest).length + 1) / 2 = (rest.length + 1) / 2 + 1 := by
    rw [List.length_cons, List.length_cons]
    omega
  have hnext : ∀ i, 2 * (i + 1) = 2 * i + 1 + 1 := fun i => by omega
  unfold sortEntries
  rw [hcount, List.range_succ_eq_map, List.filterMap_cons, List.filterMap_map]
  simp [hnext]

/-- Fields that may be keys are set one after the other. -/
theorem putSort_eq : ∀ (values : List Value) (m : Mapping Value),
    (∀ k ∈ Mapping.keys (sortEntries values), k.keyObstacle? = none) →
      putSort m values = .ok ((sortEntries values).foldl (fun m e => Mapping.put e.1 e.2 m) m)
  | [], _, _ => rfl
  | [field], m, h => by
      rw [sortEntries_singleton] at h ⊢
      rw [putSort, Value.asKey_of_keyObstacle? (h field List.mem_cons_self)]
      rfl
  | field :: direction :: rest, m, h => by
      rw [sortEntries_cons_cons] at h ⊢
      rw [putSort, Value.asKey_of_keyObstacle? (h field List.mem_cons_self)]
      exact putSort_eq rest _ fun k hk => h k (List.mem_cons_of_mem _ hk)

theorem sortMapping_eq_ofEntries {values : List Value}
    (h : ∀ k ∈ Mapping.keys (sortEntries values), k.keyObstacle? = none) :
    sortMapping values = .ok (Mapping.ofEntries (sortEntries values)) :=
  putSort_eq values [] h

/-! ## Flattened mappings -/

theorem sortEntries_flattenSort (m : Mapping Value) : sortEntries (flattenSort m) = m := by
  induction m with
  | nil => rfl
  | cons e rest ih => rw [flattenSort, sortEntries_cons_cons, ih]

/-- A list of even length is the flattened mapping of its entries. -/
theorem flattenSort_sortEntries : ∀ {values : List Value}, values.length % 2 = 0 →
    flattenSort (sortEntries values) = values
  | [], _ => rfl
  | [_], h => nomatch h
  | field :: direction :: rest, h => by
      have hrest : rest.length % 2 = 0 := by
        rw [List.length_cons, List.length_cons] at h
        omega
      rw [sortEntries_cons_cons, flattenSort, flattenSort_sortEntries hrest]

theorem length_flattenSort (m : Mapping Value) : (flattenSort m).length = 2 * m.length := by
  induction m with
  | nil => rfl
  | cons e rest ih =>
      rw [flattenSort, List.length_cons, List.length_cons, List.length_cons, ih]
      omega

/-- A mapping comes back from the list that it was flattened to. -/
theorem sortMapping_flattenSort {m : Mapping Value} (h : m.Keyed) :
    sortMapping (flattenSort m) = .ok m := by
  have hentries := sortEntries_flattenSort m
  rw [sortMapping_eq_ofEntries (by rw [hentries]; exact h.keyable), hentries,
    Mapping.ofEntries_of_apart h.apart]

/-! ## Lists that come back -/

/-- A list in which fields and directions alternate, and no field is the same as another: none is one
object with another, and none equals another. -/
structure IsFlat (values : List Value) : Prop where
  even : values.length % 2 = 0
  apart : Mapping.Apart (sortEntries values)

theorem length_ofEntries (entries : Mapping Value) :
    (Mapping.ofEntries entries).length = (Value.distinct (Mapping.keys entries)).length := by
  rw [← Mapping.keys_ofEntries]
  exact (List.length_map _).symm

/-- A list whose mapping is as long as the list repeats no field and leaves no direction out. -/
theorem isFlat_of_length_eq {values : List Value}
    (h : (flattenSort (Mapping.ofEntries (sortEntries values))).length = values.length) :
    IsFlat values := by
  rw [length_flattenSort, length_ofEntries] at h
  have heven : values.length % 2 = 0 := by omega
  refine ⟨heven, ?_⟩
  have hlength := length_flattenSort (sortEntries values)
  rw [flattenSort_sortEntries heven] at hlength
  have hkeys : (Mapping.keys (sortEntries values)).length = (sortEntries values).length :=
    List.length_map _
  -- nothing is lost by dropping repeated fields, so there are none
  have hself : Value.distinct (Mapping.keys (sortEntries values)) =
      Mapping.keys (sortEntries values) := Value.distinct_eq_self_iff.mpr (by omega)
  rw [Mapping.Apart, ← hself]
  exact Value.pairwise_distinct _

theorem IsFlat.flattenSort_ofEntries {values : List Value} (h : IsFlat values) :
    flattenSort (Mapping.ofEntries (sortEntries values)) = values := by
  rw [Mapping.ofEntries_of_apart h.apart, flattenSort_sortEntries h.even]

/-- **Flattening and putting together undo each other.** A mapping comes back from the list that it
was flattened to, with its entries in their order. A list whose fields may be keys has a mapping: its
keys are the fields that are not the same as an earlier one, in order, each with what follows it
where it occurs last. The list comes back from its mapping exactly if it has a direction for each
field and no field is the same as another. Then it comes back as it was; otherwise not even a list
comes back whose elements are the same as those of the list. -/
theorem sortMapping_flattenSort_inverse :
    (∀ m : Mapping Value, m.Keyed → sortMapping (flattenSort m) = .ok m) ∧
    ∀ values : List Value,
      (∀ k ∈ Mapping.keys (sortEntries values), k.keyObstacle? = none) →
      ∃ m, sortMapping values = .ok m ∧
        Mapping.keys m = Value.distinct (Mapping.keys (sortEntries values)) ∧
        (∃ positions, positions.Pairwise (· < ·) ∧
          List.Forall₂ (Mapping.SetAt (sortEntries values)) positions m) ∧
        (List.Forall₂ (fun v w => v = w ∨ (v == w) = true) (flattenSort m) values ↔
          IsFlat values) ∧
        (IsFlat values → flattenSort m = values) := by
  refine ⟨fun m hm => sortMapping_flattenSort hm, fun values h => ?_⟩
  refine ⟨_, sortMapping_eq_ofEntries h, Mapping.keys_ofEntries _, Mapping.exists_positions h,
    ⟨fun hback => isFlat_of_length_eq hback.length_eq, fun hflat => ?_⟩,
    IsFlat.flattenSort_ofEntries⟩
  rw [hflat.flattenSort_ofEntries]
  exact List.forall₂_same.mpr fun v _ => .inl rfl

/-- Keys of several types, among them two objects that are not numbers. -/
def mixedMapping : Mapping Value :=
  [(.int 1, .text "a"), (.text "x", .null), (.float (.nan (some 0)), .int 2),
    (.float (.nan (some 1)), .int 3)]

/-- Two fields that come again, one of them in another form and without a direction. -/
def repeatedFields : List Value :=
  [.int 1, .text "a", .text "x", .int 2, .text "x", .int (-1), .bool true]

theorem sortMapping_flattenSort_repeatedFields :
    mixedMapping.Keyed ∧ sortMapping (flattenSort mixedMapping) = .ok mixedMapping ∧
    (∀ k ∈ Mapping.keys (sortEntries repeatedFields), k.keyObstacle? = none) ∧
    sortMapping repeatedFields = .ok [(.int 1, .null), (.text "x", .int (-1))] ∧
    flattenSort [(.int 1, .null), (.text "x", .int (-1))] ≠ repeatedFields := by
  obtain ⟨hmapping, hlist⟩ := sortMapping_flattenSort_inverse
  have hkeyed : mixedMapping.Keyed := by
    constructor
    · decide
    · unfold Mapping.Apart
      decide
  have hkeys : ∀ k ∈ Mapping.keys (sortEntries repeatedFields), k.keyObstacle? = none := by decide
  have hsort : sortMapping repeatedFields = .ok [(.int 1, .null), (.text "x", .int (-1))] := by rfl
  obtain ⟨m, hm, -, -, hback, -⟩ := hlist repeatedFields hkeys
  obtain rfl := Except.ok.inj (hsort.symm.trans hm)
  refine ⟨hkeyed, hmapping _ hkeyed, hkeys, hsort, fun h => ?_⟩
  rw [h] at hback
  have hflat : IsFlat repeatedFields := hback.mp (List.forall₂_same.mpr fun v _ => .inl rfl)
  exact absurd hflat.even (by decide)

/-- One object that is not a number, as a field at two places. -/
def sharedField : List Value :=
  [.float (.nan (some 0)), .int 1, .float (.nan (some 0)), .int (-1)]

/-- It is not enough for a list to come back that it has a direction for each field and that no field
equals another. One object that is not a number equals nothing, and is one key wherever it stands. -/
theorem not_flattenSort_of_unequal_fields :
    ¬∀ (values : List Value) (m : Mapping Value),
      (∀ k ∈ Mapping.keys (sortEntries values), k.keyObstacle? = none) →
      sortMapping values = .ok m →
      (List.Forall₂ (fun v w => v = w ∨ (v == w) = true) (flattenSort m) values ↔
        values.length % 2 = 0 ∧
        (Mapping.keys (sortEntries values)).Pairwise fun earlier later =>
          later.equals earlier = false) := by
  intro hall
  have hkeys : ∀ k ∈ Mapping.keys (sortEntries sharedField), k.keyObstacle? = none := by decide
  have hback := hall sharedField [(.float (.nan (some 0)), .int (-1))] hkeys rfl
  have hunequal : (Mapping.keys (sortEntries sharedField)).Pairwise fun earlier later =>
      later.equals earlier = false := by decide
  -- the two entries have become one, so two elements come back of four
  exact absurd (hback.mpr ⟨rfl, hunequal⟩).length_eq (by decide)

end QueryFilter
