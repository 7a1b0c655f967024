import QueryFilter.FieldName
import QueryFilter.Mapping

/-!
# QueryFilter.Proofs.Mapping

Mappings seen at one name. Most keys are texts, and a text is the same as nothing but an equal
text, so what a mapping holds under a name changes only where that name is written.

* `Mapping.allAt`: everything that a mapping holds under a name, in order.
* `find?_eq_head?_allAt`: a lookup finds the first of it.
* `allAt_put_self`, `allAt_put_of_ne`: setting a key replaces the first of it, or leaves it alone.
* `HasNames`, `Named`: keys that are names, and each of them once.
* `Apart`, `foldl_put_of_apart`: keys of which none is the same as another, set one after the other.
* `foldl_put_of_named`, `perm_put`: setting names, one after the other or one again.

`allAt` rather than `find?` carries the proofs about whole runs: it commutes with steps that drop
entries, without knowing that a name occurs once.
-/

namespace QueryFilter

namespace Value

/-- A text is the same as a value exactly when that value is the text. -/
theorem text_beq_iff {s : String} {v : Value} : (Value.text s == v) = true ↔ v = .text s := by
  rw [text_beq, sameText_eq_true_iff]

/-- No value but the text itself is the same as a text. -/
theorem beq_text_iff {s : String} {v : Value} : (v == Value.text s) = true ↔ v = .text s := by
  constructor
  · intro h
    rw [beq_eq_same] at h
    cases v <;> simp_all [same, isNull, sameNumber, number?, sameText, sameBytes, sameCallable]
  · intro heq
    subst heq
    exact text_beq_iff.mpr rfl

theorem text_ne_of_ne {s t : String} (h : s ≠ t) : Value.text s ≠ .text t :=
  fun he => h (Value.text.inj he)

end Value

namespace Mapping

variable {α β : Type}

/-- Everything that a mapping holds under a name, in order. -/
def allAt (name : String) (m : Mapping α) : List α :=
  m.filterMap fun e => if Value.text name == e.1 then some e.2 else none

@[simp] theorem allAt_nil (name : String) : allAt name ([] : Mapping α) = [] := rfl

@[simp] theorem allAt_cons_self (name : String) (a : α) (m : Mapping α) :
    allAt name ((.text name, a) :: m) = a :: allAt name m := by
  simp [allAt, Value.sameText]

theorem allAt_cons_of_ne {name : String} {key : Value} (h : key ≠ .text name) (a : α)
    (m : Mapping α) : allAt name ((key, a) :: m) = allAt name m := by
  have hk : ¬(Value.text name == key) = true := fun he => h (Value.text_beq_iff.mp he)
  simp only [allAt, List.filterMap_cons, if_neg hk]

/-- A lookup finds the first of what is held under the name. -/
theorem find?_eq_head?_allAt (name : String) (m : Mapping α) :
    find? name m = (allAt name m).head? := by
  simp only [find?]
  induction m with
  | nil => rfl
  | cons e rest ih =>
      obtain ⟨k, a⟩ := e
      by_cases hk : k = .text name
      · subst hk
        simp [lookup?, Value.sameText]
      · have hb : ¬(Value.text name == k) = true := fun he => hk (Value.text_beq_iff.mp he)
        rw [allAt_cons_of_ne hk, lookup?, if_neg hb, ih]

theorem hasKey_text (name : String) (m : Mapping α) :
    hasKey (.text name) m = !(allAt name m).isEmpty := by
  have h := find?_eq_head?_allAt name m
  unfold find? at h
  rw [hasKey, h]
  cases allAt name m <;> rfl

theorem mem_of_mem_allAt {name : String} {a : α} {m : Mapping α}
    (h : a ∈ allAt name m) : (.text name, a) ∈ m := by
  obtain ⟨e, he, hsome⟩ := List.mem_filterMap.mp h
  split at hsome
  next hkey =>
    obtain rfl := Option.some.inj hsome
    rw [← Value.text_beq_iff.mp hkey]
    exact he
  next => exact nomatch hsome

theorem mem_allAt_of_mem {name : String} {a : α} {m : Mapping α}
    (h : (.text name, a) ∈ m) : a ∈ allAt name m :=
  List.mem_filterMap.mpr ⟨_, h, if_pos (Value.text_beq_iff.mpr rfl)⟩

/-- A name stands in a mapping once, or not at all. -/
def OccursOnce (name : String) (m : Mapping α) : Prop := ∃ a : Option α, allAt name m = a.toList

/-! ### Keys -/

theorem hasKey_eq_any_keys (key : Value) (m : Mapping α) :
    hasKey key m = (keys m).any fun k => key == k := by
  induction m with
  | nil => rfl
  | cons e rest ih =>
      obtain ⟨k, a⟩ := e
      unfold hasKey at *
      rw [lookup?, keys, List.map_cons, List.any_cons]
      cases hk : key == k with
      | true => rfl
      | false => simpa [keys] using ih

theorem hasKey_text_iff {name : String} {m : Mapping α} :
    hasKey (.text name) m = true ↔ .text name ∈ keys m := by
  rw [hasKey_eq_any_keys, List.any_eq_true]
  simp only [Value.text_beq_iff, exists_eq_right]

/-- What is not found is not a key. -/
theorem ne_of_find?_eq_none {name : String} {m : Mapping α} (h : find? name m = none) :
    ∀ k ∈ keys m, k ≠ .text name := by
  rintro k hk rfl
  have hkey := hasKey_text_iff.mpr hk
  unfold hasKey at hkey
  rw [show lookup? (.text name) m = none from h] at hkey
  exact nomatch hkey

/-- Setting a key adds it to the keys, if it is not there. -/
theorem keys_put (key : Value) (a : α) (m : Mapping α) :
    keys (put key a m) = if hasKey key m then keys m else keys m ++ [key] := by
  cases h : hasKey key m with
  | true => exact keys_put_of_hasKey h
  | false => simp [put_of_not_hasKey h, keys]

theorem mem_keys_put {key k : Value} {a : α} {m : Mapping α} (h : k ∈ keys (put key a m)) :
    k = key ∨ k ∈ keys m := by
  rw [keys_put] at h
  split at h
  · exact .inr h
  · rcases List.mem_append.mp h with h | h
    · exact .inr h
    · exact .inl (List.mem_singleton.mp h)

/-- A key that is there stays there. -/
theorem hasKey_put {key other : Value} {a : α} {m : Mapping α} (h : hasKey key m = true) :
    hasKey key (put other a m) = true := by
  rw [hasKey_eq_any_keys] at *
  rw [keys_put]
  split
  · exact h
  · rw [List.any_append, h, Bool.true_or]

/-! ### Setting and leaving out -/

/-- Setting a key to what it is mapped to changes nothing. -/
theorem put_eq_self {key : Value} {a : α} {m : Mapping α} (h : lookup? key m = some a) :
    put key a m = m := by
  induction m with
  | nil => exact nomatch h
  | cons e rest ih =>
      obtain ⟨k, b⟩ := e
      rw [lookup?] at h
      rw [put]
      split at h
      next hk =>
        rw [if_pos hk, Option.some.inj h]
      next hk =>
        rw [if_neg hk, ih h]

theorem mem_put {key : Value} {a : α} {m : Mapping α} {e : Value × α}
    (h : e ∈ put key a m) : e.2 = a ∨ e ∈ m := by
  induction m with
  | nil =>
      rw [List.mem_singleton.mp h]
      exact .inl rfl
  | cons first rest ih =>
      obtain ⟨k, b⟩ := first
      rw [put] at h
      split at h
      next =>
        rcases List.mem_cons.mp h with rfl | h
        · exact .inl rfl
        · exact .inr (List.mem_cons_of_mem _ h)
      next =>
        rcases List.mem_cons.mp h with rfl | h
        · exact .inr List.mem_cons_self
        · exact (ih h).imp_right (List.mem_cons_of_mem _)

theorem put_ne_nil (key : Value) (a : α) (m : Mapping α) : put key a m ≠ [] := by
  cases m with
  | nil => exact List.cons_ne_nil _ _
  | cons e rest =>
      rw [put]
      split <;> exact List.cons_ne_nil _ _

/-- Setting a name replaces the first of what is held under it. -/
theorem allAt_put_self (name : String) (a : α) (m : Mapping α) :
    allAt name (put (.text name) a m) = a :: (allAt name m).tail := by
  induction m with
  | nil => simp [put]
  | cons e rest ih =>
      obtain ⟨k, b⟩ := e
      by_cases hk : k = .text name
      · subst hk
        simp [put, Value.sameText]
      · have hb : ¬(Value.text name == k) = true := fun he => hk (Value.text_beq_iff.mp he)
        rw [put, if_neg hb, allAt_cons_of_ne hk, allAt_cons_of_ne hk, ih]

/-- Setting any other key leaves alone what is held under a name. -/
theorem allAt_put_of_ne {name : String} {key : Value} (h : key ≠ .text name) (a : α)
    (m : Mapping α) : allAt name (put key a m) = allAt name m := by
  induction m with
  | nil => exact allAt_cons_of_ne h a []
  | cons e rest ih =>
      obtain ⟨k, b⟩ := e
      by_cases hkey : (key == k) = true
      · -- the entry that is written over stood under another key than the name
        have hk : k ≠ .text name := by
          intro heq
          subst heq
          exact h (Value.beq_text_iff.mp hkey)
        rw [put, if_pos hkey, allAt_cons_of_ne hk, allAt_cons_of_ne hk]
      · rw [put, if_neg hkey]
        by_cases hk : k = .text name
        · subst hk
          rw [allAt_cons_self, allAt_cons_self, ih]
        · rw [allAt_cons_of_ne hk, allAt_cons_of_ne hk, ih]

theorem find?_put_of_ne {name : String} {key : Value} (h : key ≠ .text name) (a : α)
    (m : Mapping α) : find? name (put key a m) = find? name m := by
  rw [find?_eq_head?_allAt, find?_eq_head?_allAt, allAt_put_of_ne h]

theorem find?_put_self (name : String) (a : α) (m : Mapping α) :
    find? name (put (.text name) a m) = some a :=
  lookup?_put_self (Value.text_beq_iff.mpr rfl) a m

theorem find?_erase_self (name : String) (m : Mapping α) :
    find? name (erase (.text name) m) = none := by
  rw [find?_eq_head?_allAt, List.head?_eq_none_iff, allAt, List.filterMap_eq_nil_iff]
  intro e he
  have hkey := (List.mem_filter.mp he).2
  rw [Bool.not_eq_true'] at hkey
  rw [hkey]
  rfl

/-- Leaving keys out keeps what is held under a name that stays. -/
theorem allAt_filter_key {name : String} {p : Value → Bool} (h : p (.text name) = true)
    (m : Mapping α) : allAt name (m.filter fun e => p e.1) = allAt name m := by
  induction m with
  | nil => rfl
  | cons e rest ih =>
      obtain ⟨k, a⟩ := e
      by_cases hk : k = .text name
      · subst hk
        rw [List.filter_cons, if_pos h, allAt_cons_self, allAt_cons_self, ih]
      · rw [allAt_cons_of_ne hk, List.filter_cons]
        split
        · rw [allAt_cons_of_ne hk, ih]
        · exact ih

/-- Mapping the held things entry by entry, and dropping some, does so under each name. -/
theorem allAt_filterMap (name : String) (f : Value → α → Option β) (m : Mapping α) :
    allAt name (m.filterMap fun e => (f e.1 e.2).map (e.1, ·)) =
      (allAt name m).filterMap (f (.text name)) := by
  induction m with
  | nil => rfl
  | cons e rest ih =>
      obtain ⟨k, a⟩ := e
      by_cases hk : k = .text name
      · subst hk
        cases hf : f (.text name) a with
        | none => simp [hf, ih]
        | some b => simp [hf, ih]
      · rw [allAt_cons_of_ne hk]
        cases hf : f k a with
        | none => simp [hf, ih]
        | some b => simp [hf, allAt_cons_of_ne hk, ih]

/-! ### Names as keys -/

/-- The keys are texts. -/
def HasNames (m : Mapping α) : Prop := ∀ k ∈ keys m, ∃ name, k = .text name

/-- The keys are texts, and none of them occurs twice. -/
structure Named (m : Mapping α) : Prop where
  hasNames : HasNames m
  nodup : (keys m).Nodup

theorem keys_append (m n : Mapping α) : keys (m ++ n) = keys m ++ keys n := List.map_append

theorem HasNames.of_cons {e : Value × α} {m : Mapping α} (h : HasNames (e :: m)) : HasNames m :=
  fun k hk => h k (List.mem_cons_of_mem _ hk)

theorem Named.sublist {m n : Mapping α} (h : Named n) (hsub : m.Sublist n) : Named m :=
  ⟨fun k hk => h.hasNames k ((hsub.map Prod.fst).subset hk), h.nodup.sublist (hsub.map Prod.fst)⟩

theorem Named.of_cons {e : Value × α} {m : Mapping α} (h : Named (e :: m)) : Named m :=
  h.sublist (List.sublist_cons_self e m)

/-- No name occurs twice among keys, each of which occurs once. -/
theorem named_of_occursOnce {m : Mapping α} (h : HasNames m)
    (honce : ∀ name, OccursOnce name m) : Named m := by
  refine ⟨h, ?_⟩
  induction m with
  | nil => exact List.Pairwise.nil
  | cons e rest ih =>
      obtain ⟨key, a⟩ := e
      obtain ⟨name, rfl⟩ := h key List.mem_cons_self
      refine List.nodup_cons.mpr ⟨fun hmem => ?_, ih h.of_cons fun other => ?_⟩
      · -- the name of the first entry would occur twice
        obtain ⟨b, hb⟩ := honce name
        rw [allAt_cons_self] at hb
        change Value.text name ∈ keys rest at hmem
        rw [← hasKey_text_iff, hasKey_text, Bool.not_eq_true', List.isEmpty_eq_false_iff] at hmem
        cases b with
        | none => exact nomatch hb
        | some b => exact hmem (List.cons.inj hb).2
      · obtain ⟨b, hb⟩ := honce other
        by_cases hname : name = other
        · subst hname
          rw [allAt_cons_self] at hb
          cases b with
          | none => exact nomatch hb
          | some b => exact ⟨none, (List.cons.inj hb).2⟩
        · rw [allAt_cons_of_ne (Value.text_ne_of_ne hname)] at hb
          exact ⟨b, hb⟩

theorem OccursOnce.sublist {name : String} {m n : Mapping α} (h : OccursOnce name n)
    (hsub : m.Sublist n) : OccursOnce name m := by
  obtain ⟨b, hb⟩ := h
  have hallAt := hsub.filterMap fun e => if Value.text name == e.1 then some e.2 else none
  change (allAt name m).Sublist (allAt name n) at hallAt
  rw [hb] at hallAt
  cases b with
  | none => exact ⟨none, List.sublist_nil.mp hallAt⟩
  | some b =>
      rcases List.sublist_cons_iff.mp hallAt with hnil | ⟨r, hr, hnil⟩
      · exact ⟨none, List.sublist_nil.mp hnil⟩
      · rw [List.sublist_nil.mp hnil] at hr
        exact ⟨some b, hr⟩

/-! ### Keys that are kept apart -/

/-- No key is the same as an earlier one. -/
def Apart (m : Mapping α) : Prop :=
  (keys m).Pairwise fun earlier later => (later == earlier) = false

theorem Named.apart {m : Mapping α} (h : Named m) : Apart m := by
  refine h.nodup.imp_of_mem fun {earlier later} hearlier _ hne => ?_
  obtain ⟨name, rfl⟩ := h.hasNames earlier hearlier
  rw [Bool.eq_false_iff]
  exact fun hsame => hne (Value.beq_text_iff.mp hsame).symm

/-- Setting new keys one after the other adds their entries at the end. -/
theorem foldl_put_of_apart {m entries : Mapping α} (h : Apart (m ++ entries)) :
    entries.foldl (fun m e => put e.1 e.2 m) m = m ++ entries := by
  induction entries generalizing m with
  | nil => exact (List.append_nil m).symm
  | cons e rest ih =>
      have hnew : hasKey e.1 m = false := by
        rw [hasKey_eq_any_keys, List.any_eq_false]
        intro k hk
        rw [Apart, keys_append] at h
        rw [Bool.not_eq_true]
        exact (List.pairwise_append.mp h).2.2 k hk e.1 List.mem_cons_self
      have hsplit : m ++ e :: rest = (m ++ [e]) ++ rest := by simp
      rw [List.foldl_cons, put_of_not_hasKey hnew, hsplit]
      exact ih (hsplit ▸ h)

/-! ### Setting names -/

theorem Named.put {m : Mapping α} (h : Named m) (name : String) (a : α) :
    Named (put (.text name) a m) := by
  have hkeys := keys_put (.text name) a m
  split at hkeys
  next =>
    exact ⟨fun k hk => h.hasNames k (hkeys ▸ hk), hkeys ▸ h.nodup⟩
  next hnew =>
    rw [hasKey_text_iff] at hnew
    constructor
    · intro k hk
      rcases mem_keys_put hk with rfl | hk
      · exact ⟨name, rfl⟩
      · exact h.hasNames k hk
    · rw [hkeys, List.nodup_append]
      refine ⟨h.nodup, List.pairwise_singleton _ _, ?_⟩
      rintro k hk _ hlast rfl
      exact hnew (List.mem_singleton.mp hlast ▸ hk)

theorem Named.foldl_put {entries m : Mapping α} (h : HasNames entries) (hm : Named m) :
    Named (entries.foldl (fun m e => Mapping.put e.1 e.2 m) m) := by
  induction entries generalizing m with
  | nil => exact hm
  | cons e rest ih =>
      obtain ⟨key, a⟩ := e
      obtain ⟨name, rfl⟩ := h key List.mem_cons_self
      exact ih h.of_cons (hm.put name a)

/-- Setting new names one after the other adds their entries at the end. -/
theorem foldl_put_of_named {m entries : Mapping α} (h : Named (m ++ entries)) :
    entries.foldl (fun m e => Mapping.put e.1 e.2 m) m = m ++ entries :=
  foldl_put_of_apart h.apart

/-- A name in front stays in front while other names are set. -/
theorem foldl_put_cons {name : String} {entries : Mapping α}
    (h : ∀ k ∈ keys entries, k ≠ .text name) (a : α) (m : Mapping α) :
    entries.foldl (fun m e => Mapping.put e.1 e.2 m) ((.text name, a) :: m) =
      (.text name, a) :: entries.foldl (fun m e => Mapping.put e.1 e.2 m) m := by
  induction entries generalizing m with
  | nil => rfl
  | cons e rest ih =>
      have hkey : ¬(e.1 == Value.text name) = true := fun he =>
        h e.1 List.mem_cons_self (Value.beq_text_iff.mp he)
      rw [List.foldl_cons, List.foldl_cons, Mapping.put, if_neg hkey]
      exact ih (fun k hk => h k (List.mem_cons_of_mem _ hk)) _

/-- Leaving a name out undoes that it was set. -/
theorem erase_put_self (name : String) (a : α) (m : Mapping α) :
    erase (.text name) (Mapping.put (.text name) a m) = erase (.text name) m := by
  induction m with
  | nil => simp [Mapping.put, erase, Value.sameText]
  | cons e rest ih =>
      obtain ⟨key, b⟩ := e
      rw [Mapping.put]
      split
      next hkey =>
        unfold erase
        rw [List.filter_cons, List.filter_cons, hkey]
        rfl
      next hkey =>
        unfold erase at *
        rw [List.filter_cons, List.filter_cons, ih]

/-- A mapping with a name set is, but for the order, the mapping without the name and the entry. -/
theorem perm_put {name : String} {m : Mapping α} (h : Named m) (a : α) :
    (Mapping.put (.text name) a m).Perm (erase (.text name) m ++ [(.text name, a)]) := by
  induction m with
  | nil => exact List.Perm.refl _
  | cons e rest ih =>
      obtain ⟨key, b⟩ := e
      rw [Mapping.put]
      split
      next hkey =>
        -- the name stands here and nowhere else
        obtain rfl := Value.text_beq_iff.mp hkey
        have hrest : erase (.text name) rest = rest := by
          refine List.filter_eq_self.mpr fun e he => ?_
          rw [Bool.not_eq_true', Bool.eq_false_iff]
          intro hsame
          have hmem : Value.text name ∈ keys rest :=
            List.mem_map.mpr ⟨e, he, Value.text_beq_iff.mp hsame⟩
          exact (List.nodup_cons.mp h.nodup).1 hmem
        have hall : erase (.text name) ((.text name, b) :: rest) = rest := by
          rw [erase, List.filter_cons, hkey]
          exact hrest
        rw [hall]
        exact (List.perm_append_singleton _ _).symm
      next hkey =>
        have hall : erase (.text name) ((key, b) :: rest) = (key, b) :: erase (.text name) rest := by
          rw [erase, List.filter_cons, Bool.eq_false_iff.mpr hkey]
          rfl
        rw [hall]
        exact (ih h.of_cons).cons _

end Mapping

end QueryFilter
