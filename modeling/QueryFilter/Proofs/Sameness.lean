import QueryFilter.Proofs.Settling

/-!
# QueryFilter.Proofs.Sameness

When two values are the same, and when two keys are the same key. To be the same is to be one object
or to be equal, and only what is not a number can be the first without the second. Sameness is no
equivalence of values: what is not a number and has no identity is not the same as itself, and sets
and mappings are compared with a look at one side only. Among the values that may be keys it is
symmetric and transitive, so a mapping's keys fall into classes.

* `Value.identical`, `Value.equals`: one object, and equal; `same_iff_identical_or_equals`.
* `Place.compare_eq_same_iff`: numbers are equal where they lie at one place.
* `Value.eq_or_numbersAlike`: what is the same as a key without parts.
* `Value.same_symm`, `Value.same_trans`: the two laws.
-/

namespace QueryFilter

/-! ## Numbers -/

theorem Comparison.ofInts_eq_same_iff {m n : Int} : ofInts m n = .same ↔ m = n := by
  unfold ofInts
  split
  next h => exact iff_of_false nofun (Int.ne_of_lt h)
  next =>
    split
    next h => exact iff_of_true rfl h
    next h => exact iff_of_false nofun h

/-- Two numbers are worth as much where they lie at one place, which must be somewhere. -/
theorem Place.compare_eq_same_iff {p q : Place} :
    p.compare q = .same ↔ p = q ∧ p ≠ .nowhere := by
  cases p <;> cases q <;> simp [compare, Comparison.ofInts_eq_same_iff]

namespace Number

theorem eq_of_identical {m n : Number} (h : m.identical n = true) : m = n := by
  unfold identical at h
  split at h
  next i j => rw [beq_iff_eq.mp h]
  next => cases h

/-- Two numbers are alike when they are one object, or lie at one place, which must be somewhere. -/
def Alike (m n : Number) : Prop :=
  m.identical n = true ∨ m.place = n.place ∧ m.place ≠ .nowhere

theorem Alike.symm {m n : Number} (h : m.Alike n) : n.Alike m := by
  rcases h with hone | ⟨hplace, hsome⟩
  · obtain rfl := eq_of_identical hone
    exact .inl hone
  · exact .inr ⟨hplace.symm, hplace ▸ hsome⟩

theorem Alike.trans {m n k : Number} (hmn : m.Alike n) (hnk : n.Alike k) : m.Alike k := by
  rcases hmn with hone | ⟨hplace, hsome⟩
  · obtain rfl := eq_of_identical hone
    exact hnk
  · rcases hnk with hone | ⟨hplace', -⟩
    · obtain rfl := eq_of_identical hone
      exact .inr ⟨hplace, hsome⟩
    · exact .inr ⟨hplace.trans hplace', hsome⟩

end Number

namespace Value

theorem sameNumber_eq_true_iff {m : Number} {b : Value} :
    sameNumber m b = true ↔ ∃ n, b.number? = some n ∧ m.Alike n := by
  unfold sameNumber
  cases b.number? with
  | none => simp
  | some n => simp [Number.Alike, Number.compare_eq_place, Place.compare_eq_same_iff]

theorem same_of_number? {a : Value} {m : Number} (h : a.number? = some m) (b : Value) :
    same a b = sameNumber m b := by
  cases a <;> cases h <;> rw [same]

/-! ## One object, and equal -/

/-- Are both values one object that is not a number? Of other values it never shows. -/
def identical (a b : Value) : Bool :=
  match a.number?, b.number? with
  | some m, some n => m.identical n
  | _, _ => false

/-- Are two values equal? Numbers are when they are worth as much, so what is not a number equals
nothing; other values are when their parts are the same. -/
def equals (a b : Value) : Bool :=
  match a.number?, b.number? with
  | some m, some n => m.compare n == .same
  | _, _ => same a b

/-- Values are the same when they are one object or equal. -/
theorem same_iff_identical_or_equals {a b : Value} :
    same a b = true ↔ a.identical b = true ∨ a.equals b = true := by
  unfold identical equals
  cases ha : a.number? with
  | none => simp
  | some m =>
      cases hb : b.number? with
      | none => simp
      | some n => simp only [same_of_number? ha, sameNumber, hb, Bool.or_eq_true]

/-! ## Keys -/

/-- Both values are numbers, and alike. -/
def NumbersAlike (a b : Value) : Prop :=
  ∃ m n, a.number? = some m ∧ b.number? = some n ∧ m.Alike n

theorem NumbersAlike.same {a b : Value} (h : NumbersAlike a b) : same a b = true := by
  obtain ⟨m, n, ha, hb, halike⟩ := h
  rw [same_of_number? ha]
  exact sameNumber_eq_true_iff.mpr ⟨n, hb, halike⟩

theorem NumbersAlike.symm {a b : Value} (h : NumbersAlike a b) : NumbersAlike b a := by
  obtain ⟨m, n, ha, hb, halike⟩ := h
  exact ⟨n, m, hb, ha, halike.symm⟩

theorem numbersAlike_of_same {a b : Value} {m : Number} (ha : a.number? = some m)
    (h : same a b = true) : NumbersAlike a b := by
  rw [same_of_number? ha] at h
  obtain ⟨n, hb, halike⟩ := sameNumber_eq_true_iff.mp h
  exact ⟨m, n, ha, hb, halike⟩

/-- A key that is no tuple is the same as itself, or as a number like it, and as nothing else. -/
theorem eq_or_numbersAlike {a b : Value} (ha : a.keyObstacle? = none) (htuple : ∀ xs, a ≠ .tuple xs)
    (h : same a b = true) : b = a ∨ NumbersAlike a b := by
  cases a with
  | bool x => exact .inr (numbersAlike_of_same rfl h)
  | int n => exact .inr (numbersAlike_of_same rfl h)
  | float x => exact .inr (numbersAlike_of_same rfl h)
  | null =>
      rw [same] at h
      exact .inl (isNull_iff.mp h)
  | text s =>
      rw [same] at h
      exact .inl (sameText_eq_true_iff.mp h)
  | bytes content =>
      rw [same] at h
      cases b <;> simp_all [sameBytes]
  | callable f =>
      rw [same] at h
      cases b <;> simp_all [sameCallable]
  | tuple xs => exact absurd rfl (htuple xs)
  | list items => simp [keyObstacle?] at ha
  | set items => simp [keyObstacle?] at ha
  | mapping entries => simp [keyObstacle?] at ha
  | object attributes => simp [keyObstacle?] at ha
  | descriptor fields => simp [keyObstacle?] at ha

theorem exists_tuple_of_same {xs : List Value} {b : Value} (h : same (.tuple xs) b = true) :
    ∃ ys, b = .tuple ys ∧ sameItems xs ys = true := by
  cases b with
  | tuple ys => exact ⟨ys, rfl, by rwa [same] at h⟩
  | _ => simp [same] at h

/-- What keys that are no tuples are the same as is the same as they are. -/
theorem same_symm_of_ne_tuple {a b : Value} (ha : a.keyObstacle? = none)
    (htuple : ∀ xs, a ≠ .tuple xs) (h : same a b = true) : same b a = true := by
  rcases eq_or_numbersAlike ha htuple h with rfl | halike
  · exact h
  · exact halike.symm.same

theorem same_trans_of_ne_tuple {a b c : Value} (ha : a.keyObstacle? = none)
    (htuple : ∀ xs, a ≠ .tuple xs) (hab : same a b = true) (hbc : same b c = true) :
    same a c = true := by
  rcases eq_or_numbersAlike ha htuple hab with rfl | ⟨m, n, ham, hbn, hmn⟩
  · exact hbc
  · rw [same_of_number? hbn] at hbc
    obtain ⟨k, hck, hnk⟩ := sameNumber_eq_true_iff.mp hbc
    exact NumbersAlike.same ⟨m, k, ham, hck, hmn.trans hnk⟩

mutual

theorem same_symm {a b : Value} (ha : a.keyObstacle? = none) (h : same a b = true) :
    same b a = true := by
  match a with
  | .tuple xs =>
      obtain ⟨ys, rfl, hitems⟩ := exists_tuple_of_same h
      rw [same]
      exact sameItems_symm ha hitems
  | .null | .bool _ | .int _ | .float _ | .text _ | .bytes _ | .list _ | .set _ | .mapping _
  | .object _ | .callable _ | .descriptor _ => exact same_symm_of_ne_tuple ha (fun _ => nofun) h
termination_by structural a

theorem sameItems_symm {xs ys : List Value} (hxs : keyObstacleIn? xs = none)
    (h : sameItems xs ys = true) : sameItems ys xs = true := by
  match xs, ys, hxs, h with
  | [], [], _, _ => rfl
  | x :: xs, y :: ys, hxs, h =>
      rw [keyObstacleIn?, Option.or_eq_none_iff] at hxs
      rw [sameItems, Bool.and_eq_true] at h ⊢
      exact ⟨same_symm hxs.1 h.1, sameItems_symm hxs.2 h.2⟩
termination_by structural xs

end

mutual

theorem same_trans {a b c : Value} (ha : a.keyObstacle? = none) (hab : same a b = true)
    (hbc : same b c = true) : same a c = true := by
  match a with
  | .tuple xs =>
      obtain ⟨ys, rfl, hxy⟩ := exists_tuple_of_same hab
      obtain ⟨zs, rfl, hyz⟩ := exists_tuple_of_same hbc
      rw [same]
      exact sameItems_trans ha hxy hyz
  | .null | .bool _ | .int _ | .float _ | .text _ | .bytes _ | .list _ | .set _ | .mapping _
  | .object _ | .callable _ | .descriptor _ =>
      exact same_trans_of_ne_tuple ha (fun _ => nofun) hab hbc
termination_by structural a

theorem sameItems_trans {xs ys zs : List Value} (hxs : keyObstacleIn? xs = none)
    (hxy : sameItems xs ys = true) (hyz : sameItems ys zs = true) : sameItems xs zs = true := by
  match xs, ys, zs, hxs, hxy, hyz with
  | [], [], [], _, _, _ => rfl
  | x :: xs, y :: ys, z :: zs, hxs, hxy, hyz =>
      rw [keyObstacleIn?, Option.or_eq_none_iff] at hxs
      rw [sameItems, Bool.and_eq_true] at hxy hyz ⊢
      exact ⟨same_trans hxs.1 hxy.1 hyz.1, sameItems_trans hxs.2 hxy.2 hyz.2⟩
termination_by structural xs

end

end Value
end QueryFilter
