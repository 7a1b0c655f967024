import QueryFilter.Proofs.Compiling
import QueryFilter.Proofs.Settling

/-!
# QueryFilter.Proofs.Sorting

The sort of a request without a schema, from its tokens to its mapping.

The conversion of texts leaves values of three kinds, and a list of them can be read as a sort,
whatever it holds. What is read is a list in which fields and directions alternate, and such a list
has a mapping.

* `Converted`: the values that null and texts are converted to.
* `Alternates`: the lists in which fields and directions alternate.
* `readSort_of_converted`: a list of converted values is read as such a list.
* `sortMapping_of_alternates`: such a list has a mapping.
* `Matrix.settleField_sort`: the sort of a request, settled.
-/

namespace QueryFilter

/-- What null and texts are converted to. -/
inductive Converted : Value → Prop where
  | null : Converted .null
  | number (n : Number) : Converted (.ofNumber n)
  /-- a text that spells no number -/
  | text {s : String} : readNumber s = .ok none → Converted (.text s)

/-- Fields and directions alternate, and the last field has its direction. `expecting` says that
the direction of an earlier field comes first. -/
inductive Alternates : Bool → List Value → Prop where
  | nil : Alternates false []
  | field {values : List Value} (s : String) :
      Alternates true values → Alternates false (.text s :: values)
  | direction {values : List Value} (d : Direction) :
      Alternates false values → Alternates true (d.toValue :: values)

/-! ## Reading -/

theorem SortToken.ofNumber_ne_field (n : Number) : SortToken.ofNumber n ≠ .field := by
  unfold ofNumber
  split
  · exact nofun
  · split <;> exact nofun

/-- A converted value is a token of a sort, and a field only if it is a text. -/
theorem Converted.read {v : Value} (h : Converted v) :
    ∃ token, SortToken.read v = .ok token ∧ (token = .field → ∃ s, v = .text s) := by
  cases h with
  | null => exact ⟨.stray, rfl, nofun⟩
  | number n =>
      refine ⟨SortToken.ofNumber n, ?_, fun hfield => absurd hfield (SortToken.ofNumber_ne_field n)⟩
      cases n <;> rfl
  | @text s hs =>
      refine ⟨if SortToken.isBlank (.text s) then .stray else .field, ?_, fun _ => ⟨s, rfl⟩⟩
      show (readNumber s >>= _) = _
      rw [hs]
      rfl

/-- A direction that nobody gave. -/
theorem Alternates.implied {values : List Value} (h : Alternates false values) (expecting : Bool) :
    Alternates expecting (impliedDirection expecting ++ values) := by
  cases expecting with
  | false => exact h
  | true => exact .direction .ascending h

/-- Converted values are read as a sort. -/
theorem readSort_of_converted (cfg : Config) {tokens : List Value}
    (h : ∀ v ∈ tokens, Converted v) (expecting : Bool) :
    ∃ values, (readSort {} cfg expecting tokens).result = .ok values ∧
      Alternates expecting values := by
  induction tokens generalizing expecting with
  | nil => exact ⟨impliedDirection expecting, rfl, by simpa using Alternates.nil.implied expecting⟩
  | cons v rest ih =>
      replace ih := ih fun w hw => h w (List.mem_cons_of_mem v hw)
      obtain ⟨token, hread, hfield⟩ := (h v List.mem_cons_self).read
      rw [readSort, hread, Logged.liftM_ok, Logged.result_bind]
      cases token with
      | direction d =>
          cases expecting with
          | true =>
              obtain ⟨more, hmore, halternates⟩ := ih false
              refine ⟨d.toValue :: more, ?_, .direction d halternates⟩
              show (readSort {} cfg false rest >>= fun more => pure (d.toValue :: more)).result = _
              rw [Logged.result_bind, hmore]
              rfl
          | false => exact ih false
      | stray => exact ih expecting
      | field =>
          obtain ⟨s, rfl⟩ := hfield rfl
          obtain ⟨more, hmore, halternates⟩ := ih true
          refine ⟨impliedDirection expecting ++ .text s :: more, ?_,
            (halternates.field s).implied expecting⟩
          -- without a schema every field may be sorted by
          show (readSort {} cfg true rest >>= fun more =>
            pure (impliedDirection expecting ++ .text s :: more)).result = _
          rw [Logged.result_bind, hmore]
          rfl

/-! ## Settling -/

theorem putSort_of_alternates : ∀ {values : List Value}, Alternates false values →
    ∀ m : Mapping Value, ∃ sort, putSort m values = .ok sort
  | _, .nil, m => ⟨m, rfl⟩
  | _, .field s (.direction d h), m => putSort_of_alternates h (Mapping.put (.text s) d.toValue m)

/-- Fields with their directions have a mapping. -/
theorem sortMapping_of_alternates {values : List Value} (h : Alternates false values) :
    ∃ sort, sortMapping values = .ok sort :=
  putSort_of_alternates h []

/-- The sort of a request is settled to fields with their directions. -/
theorem Matrix.settleField_sort (cfg : Config) {a : Accumulator}
    (h : ∀ v ∈ a.eq.getD [], Converted v) :
    ∃ kept, (settleField {} cfg (.text FieldName.sort) a).result = .ok kept ∧
      ∀ b ∈ kept, Alternates false (b.eq.getD []) := by
  unfold settleField
  dsimp only
  split
  next =>
    obtain ⟨values, hread, halternates⟩ := readSort_of_converted cfg h false
    unfold settleSort
    rw [Logged.result_bind, hread]
    cases values with
    | nil => exact ⟨none, rfl, nofun⟩
    | cons v values =>
        refine ⟨some { eq := some (v :: values) }, rfl, fun b hb => ?_⟩
        obtain rfl := Option.some.inj hb
        exact halternates
  next hempty =>
    -- no token came under equality, so none is left
    have htokens : a.eq.getD [] = [] := by
      rw [Bool.and_eq_true, Bool.not_eq_true', not_and, Bool.not_eq_false] at hempty
      exact List.isEmpty_iff.mp (hempty rfl)
    refine ⟨_, rfl, fun b hb => ?_⟩
    split at hb
    next => exact nomatch hb
    next =>
      obtain rfl := Option.some.inj hb
      rw [a.eq_settle_of_eq_nil htokens]
      exact .nil

end QueryFilter
