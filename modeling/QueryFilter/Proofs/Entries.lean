import QueryFilter.Proofs.Conflicts
import QueryFilter.Proofs.Sameness
import Mathlib.Data.List.Forall2
import Mathlib.Data.List.Induction

/-!
# QueryFilter.Proofs.Entries

Entries that are set one after the other, where keys may come again. A key stays where it was set
first, in the form that it had there, and its value is the one that was set last.

* `Mapping.Keyed`: the mappings that can be built by setting keys.
* `Mapping.keys_ofEntries`: the keys that stay.
* `Mapping.SetAt`: what becomes of the entry at a position.
* `Mapping.exists_positions`: the mapping, entry by entry.

The values are followed from the end: one more entry changes the value of one key, for sameness of
keys is symmetric and transitive, and no two of those that stay are the same.
-/

namespace QueryFilter

namespace Mapping

variable {α : Type} {entries m : Mapping α} {key k : Value} {a : α}

/-! ## Keys -/

/-- The keys may be keys, and none of them is the same as an earlier one. -/
structure Keyed (m : Mapping α) : Prop where
  keyable : ∀ k ∈ keys m, k.keyObstacle? = none
  apart : Apart m

/-- Entries whose keys are kept apart are a mapping as they are. -/
theorem ofEntries_of_apart (h : Apart entries) : ofEntries entries = entries :=
  foldl_put_of_apart (m := []) h

theorem ofEntries_concat (entries : Mapping α) (e : Value × α) :
    ofEntries (entries ++ [e]) = put e.1 e.2 (ofEntries entries) := by
  unfold ofEntries
  rw [List.foldl_append]
  rfl

theorem keys_put_eq_keepDistinct (key : Value) (a : α) (m : Mapping α) :
    keys (put key a m) = Value.keepDistinct (keys m) key := by
  rw [keys_put, hasKey_eq_any_keys, ← List.contains_eq_any_beq]
  rfl

/-- The keys that stay are those that are not the same as an earlier one. -/
theorem keys_ofEntries (entries : Mapping α) :
    keys (ofEntries entries) = Value.distinct (keys entries) := by
  induction entries using List.reverseRecOn with
  | nil => rfl
  | append_singleton entries e ih =>
      rw [ofEntries_concat, keys_put_eq_keepDistinct, ih, keys_append]
      exact (Value.distinct_concat _ _).symm

theorem keyed_ofEntries (h : ∀ k ∈ keys entries, k.keyObstacle? = none) :
    Keyed (ofEntries entries) := by
  constructor
  · intro k hk
    rw [keys_ofEntries] at hk
    exact h k ((Value.distinct_sublist _).subset hk)
  · rw [Apart, keys_ofEntries]
    exact Value.pairwise_distinct _

theorem hasKey_eq_false_iff : hasKey key m = false ↔ ∀ k ∈ keys m, (key == k) = false := by
  rw [hasKey_eq_any_keys, List.any_eq_false]
  simp only [Bool.not_eq_true]

/-- A key that none of those that stay is the same as was not set at all. -/
theorem not_same_of_hasKey_ofEntries (hkey : key.keyObstacle? = none)
    (h : hasKey key (ofEntries entries) = false) : ∀ k ∈ keys entries, (key == k) = false := by
  rw [hasKey_eq_false_iff, keys_ofEntries] at h
  intro k hk
  obtain ⟨before, after, hkeys⟩ := List.append_of_mem hk
  rcases (Value.firstOccurrences_distinct (keys entries)).covers before k after hkeys with
    ⟨_, _, hkept, -⟩ | ⟨w, -, hw, hsame⟩
  · exact h k (by simp [hkept])
  · rw [Bool.eq_false_iff]
    intro hk
    have htrans : (key == w) = true :=
      Value.same_trans hkey hk (Value.same_iff_identical_or_equals.mpr hsame)
    rw [h w hw] at htrans
    exact nomatch htrans

/-! ## Values -/

/-- The value of a key: that of the last of the later entries with the same key, or its own. -/
def lastValue (k : Value) (own : α) (later : Mapping α) : α :=
  ((later.filter fun e => e.1 == k).getLast?.map Prod.snd).getD own

/-- What is left of the entry at a position, where its key occurs for the first time: the key, with
the value that it is set to last. -/
inductive SetAt : Mapping α → Nat → Value × α → Prop where
  | mk {before later : Mapping α} {k : Value} {own : α} :
      (∀ earlier ∈ keys before, (k == earlier) = false) →
      SetAt (before ++ (k, own) :: later) before.length (k, lastValue k own later)

/-- An entry after a key was set. -/
def updated (key : Value) (a : α) (e : Value × α) : Value × α :=
  (e.1, if key == e.1 then a else e.2)

theorem lastValue_concat (k key : Value) (own a : α) (later : Mapping α) :
    lastValue k own (later ++ [(key, a)]) = if key == k then a else lastValue k own later := by
  unfold lastValue
  rw [List.filter_append]
  cases h : key == k <;> simp [h]

theorem SetAt.lt_length {i : Nat} {e : Value × α} (h : SetAt entries i e) : i < entries.length := by
  cases h
  simp

/-- One more entry gives its value to its key, and leaves all others as they are. -/
theorem SetAt.concat {i : Nat} {e : Value × α} (h : SetAt entries i e) (key : Value) (a : α) :
    SetAt (entries ++ [(key, a)]) i (updated key a e) := by
  cases h with
  | @mk before later k own hfirst =>
      rw [List.append_assoc, List.cons_append, updated, ← lastValue_concat]
      exact .mk hfirst

/-- A key that occurs for the first time is set at the end. -/
theorem SetAt.concat_of_new (h : ∀ k ∈ keys entries, (key == k) = false) (a : α) :
    SetAt (entries ++ [(key, a)]) entries.length (key, a) := by
  have hset : SetAt (entries ++ [(key, a)]) entries.length (key, lastValue key a []) := .mk h
  exact hset

/-- A key is the same as one of those that are kept apart at most. -/
theorem Keyed.not_same_of_same {e : Value × α} (hm : Keyed (e :: m))
    (hkey : key.keyObstacle? = none) (h : (key == e.1) = true) :
    ∀ k ∈ keys m, (key == k) = false := by
  intro k hk
  rw [Bool.eq_false_iff]
  intro hsame
  have hback : (k == key) = true := Value.same_symm hkey hsame
  have hboth : (k == e.1) = true :=
    Value.same_trans (hm.keyable k (List.mem_cons_of_mem _ hk)) hback h
  rw [(List.pairwise_cons.mp hm.apart).1 k hk] at hboth
  exact nomatch hboth

theorem updated_of_not_same {e : Value × α} (h : (key == e.1) = false) (a : α) :
    updated key a e = e := by
  rw [updated, h]
  rfl

theorem map_updated_of_not_same (h : ∀ k ∈ keys m, (key == k) = false) (a : α) :
    m.map (updated key a) = m := by
  have hself : ∀ e ∈ m, updated key a e = id e := fun e he =>
    updated_of_not_same (h e.1 (List.mem_map_of_mem he)) a
  rw [List.map_congr_left hself, List.map_id]

/-- Setting a key changes the value of the one that is the same, or adds the key at the end. -/
theorem put_eq_map_updated (hm : Keyed m) (hkey : key.keyObstacle? = none) (a : α) :
    put key a m = m.map (updated key a) ++ if hasKey key m then [] else [(key, a)] := by
  induction m with
  | nil => rfl
  | cons e rest ih =>
      replace ih := ih ⟨fun k hk => hm.keyable k (List.mem_cons_of_mem _ hk),
        (List.pairwise_cons.mp hm.apart).2⟩
      cases h : key == e.1 with
      | true =>
          have hrest := map_updated_of_not_same (hm.not_same_of_same hkey h) a
          simp [put, hasKey, lookup?, updated, h, hrest]
      | false =>
          unfold hasKey at ih
          simp [put, hasKey, lookup?, updated_of_not_same h, h, ih]

/-- The mapping that entries come to, one by one: what is left of the entries at increasing
positions. -/
theorem exists_positions (h : ∀ k ∈ keys entries, k.keyObstacle? = none) :
    ∃ positions, positions.Pairwise (· < ·) ∧
      List.Forall₂ (SetAt entries) positions (ofEntries entries) := by
  induction entries using List.reverseRecOn with
  | nil => exact ⟨[], .nil, .nil⟩
  | append_singleton entries e ih =>
      obtain ⟨key, a⟩ := e
      rw [keys_append, List.forall_mem_append] at h
      obtain ⟨positions, hincreasing, hset⟩ := ih h.1
      have hkey : key.keyObstacle? = none := h.2 key List.mem_cons_self
      have hupdated : List.Forall₂ (SetAt (entries ++ [(key, a)])) positions
          ((ofEntries entries).map (updated key a)) :=
        List.forall₂_map_right_iff.mpr (hset.imp fun _ _ hat => hat.concat key a)
      rw [ofEntries_concat, put_eq_map_updated (keyed_ofEntries h.1) hkey]
      cases hnew : hasKey key (ofEntries entries) with
      | true => exact ⟨positions, hincreasing, by simpa using hupdated⟩
      | false =>
          have hend := SetAt.concat_of_new (not_same_of_hasKey_ofEntries hkey hnew) a
          have hreach : ∀ i ∈ positions, i < entries.length :=
            ((List.forall₂_and_left _ _).mp (hset.imp fun _ _ hat => ⟨hat.lt_length, hat⟩)).1
          refine ⟨positions ++ [entries.length], ?_, List.rel_append hupdated (.cons hend .nil)⟩
          rw [List.pairwise_append]
          exact ⟨hincreasing, List.pairwise_singleton _ _, by simpa using hreach⟩

end Mapping

end QueryFilter
