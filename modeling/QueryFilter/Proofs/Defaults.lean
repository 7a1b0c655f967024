import QueryFilter.Proofs.Gathering

/-!
# QueryFilter.Proofs.Defaults

Which defaults are written, and what they leave alone.

* `defaultDescriptor?_inv`: when a field gets a default, and which.
* `fillDefault`, `fillDefaults_result`: the defaults as a fold over the template, one field each.
* `fillDefault_inv`, `mem_keys_fillDefaults`: what one default writes, and which fields all add.
* `fillDefaults_at`: which default, if any, a field got in the end.
* `allAt_fillDefaults_congr`: the defaults of two matrices, seen at one field.
-/

namespace QueryFilter

/-! ## One default -/

/-- A field gets a default if the matrix lacks it and its entry declares one: the entry's own, or
the one that the configuration puts in its place, which pagination fields do not take. -/
theorem defaultDescriptor?_inv {name entry : Value} {cfg : Config} {m : Matrix} {d : Descriptor}
    (h : defaultDescriptor? name entry cfg m = .ok (some d)) :
    Mapping.hasKey name m = false ∧ entry.isNull = false ∧
      ∃ own, Descriptor.ofValue entry = .ok own ∧ own.default.isSome = true ∧
        if (overriding name cfg).isTruthy then
          FieldName.isReserved name = false ∧ overrideDescriptor (overriding name cfg) = .ok d
        else d = own := by
  unfold defaultDescriptor? at h
  split at h
  next => exact nomatch h
  next hmissing =>
    rw [Bool.or_eq_true, not_or, Bool.not_eq_true, Bool.not_eq_true] at hmissing
    obtain ⟨own, hown, h⟩ := Except.bind_eq_ok h
    refine ⟨hmissing.1, hmissing.2, own, hown, ?_⟩
    split at h
    next => exact nomatch h
    next hdefault =>
      rw [Option.isNone_iff_eq_none, ← Ne, Option.ne_none_iff_isSome] at hdefault
      refine ⟨hdefault, ?_⟩
      dsimp only at h
      cases hoverride : (overriding name cfg).isTruthy with
      | false =>
          rw [hoverride] at h
          exact (Option.some.inj (Except.ok.inj h)).symm
      | true =>
          rw [hoverride] at h
          simp only [Bool.not_true, Bool.false_eq_true, if_false] at h
          split at h
          next => exact nomatch h
          next hreserved =>
            obtain ⟨d', hd', h⟩ := Except.bind_eq_ok h
            obtain rfl := Option.some.inj (Except.ok.inj h)
            rw [Bool.not_eq_true] at hreserved
            exact ⟨hreserved, hd'⟩

/-- A default under equality gathers its values. -/
theorem Descriptor.defaultAccumulator_eq {d : Descriptor}
    (hop : d.operatorName = Operator.eq.name) (name : Value) :
    d.defaultAccumulator name = (collectedDefault name .eq (d.default.getD .null)).map
      fun values => (Accumulator.empty.setCollected .eq values, []) := by
  have hname : Operator.ofName? Operator.eq.name = some .eq := rfl
  unfold defaultAccumulator
  rw [hop, bne_self_eq_false, Bool.and_false, if_neg Bool.false_ne_true, hname]
  dsimp only
  cases collectedDefault name .eq (d.default.getD .null) <;> rfl

/-- The default of a reserved field is under equality. -/
theorem Descriptor.defaultAccumulator_of_reserved {name : Value}
    (hname : FieldName.isReserved name = true) {d : Descriptor} {a : Accumulator}
    {reports : List Diagnostic} (h : d.defaultAccumulator name = .ok (a, reports)) :
    ∃ values, collectedDefault name .eq (d.default.getD .null) = .ok values ∧
      a = Accumulator.empty.setCollected .eq values := by
  have hop : d.operatorName = Operator.eq.name := by
    unfold defaultAccumulator at h
    split at h
    next => exact nomatch h
    next hop =>
      rw [hname, Bool.true_and, bne_iff_ne, ne_eq, Decidable.not_not] at hop
      exact hop
  rw [defaultAccumulator_eq hop] at h
  cases hvalues : collectedDefault name .eq (d.default.getD .null) with
  | error report =>
      rw [hvalues] at h
      exact nomatch h
  | ok values =>
      rw [hvalues] at h
      exact ⟨values, rfl, (congrArg Prod.fst (Except.ok.inj h)).symm⟩

/-- The matrix after the default of one field of the template. -/
def fillDefault (cfg : Config) (m : Matrix) (e : Value × Value) : Except Fault Matrix :=
  (defaultDescriptor? e.1 e.2 cfg m).map fun
    | none => m
    | some d => (m.writeDefault e.1 d).matrix

/-- Filling in the defaults is filling in one after the other, in the template's order. -/
theorem fillDefaults_result (cfg : Config) (template : Mapping Value) (m : Matrix) :
    (fillDefaults cfg template m).toLogged.result.map Prod.fst =
      template.foldlM (fillDefault cfg) m := by
  induction template generalizing m with
  | nil => rfl
  | cons e rest ih =>
      obtain ⟨name, entry⟩ := e
      rw [List.foldlM_cons, fillDefault, fillDefaults]
      cases hd : defaultDescriptor? name entry cfg m with
      | error fault => rfl
      | ok d =>
          cases d with
          | none => exact ih m
          | some d =>
              -- the mark that a default was taken does not change the matrix
              refine Eq.trans ?_ (ih _)
              unfold Filling.toLogged
              dsimp only
              cases (fillDefaults cfg rest (m.writeDefault name d).matrix).fault <;> rfl

/-- The default of one field of the template is written under the field's name, or nothing is. -/
theorem fillDefault_inv {cfg : Config} {m m' : Matrix} {e : Value × Value}
    (h : fillDefault cfg m e = .ok m') :
    m' = m ∨ ∃ d written, defaultDescriptor? e.1 e.2 cfg m = .ok (some d) ∧
      m' = Mapping.put e.1 written m := by
  unfold fillDefault at h
  cases hd : defaultDescriptor? e.1 e.2 cfg m with
  | error fault =>
      rw [hd] at h
      exact nomatch h
  | ok d? =>
      rw [hd] at h
      obtain rfl := Except.ok.inj h
      cases d? with
      | none => exact .inl rfl
      | some d =>
          dsimp only [Matrix.writeDefault]
          cases d.defaultAccumulator e.1 with
          | error report => exact .inl rfl
          | ok written => exact .inr ⟨d, written.1, rfl, rfl⟩

/-- The field of a template's entry is the only one that the entry's default can add, and only if the
matrix lacks it. -/
theorem mem_keys_fillDefault {cfg : Config} {m m' : Matrix} {e : Value × Value}
    (h : fillDefault cfg m e = .ok m') {k : Value} (hk : k ∈ Mapping.keys m') :
    k ∈ Mapping.keys m ∨ k = e.1 ∧ Mapping.hasKey e.1 m = false ∧
      ∃ own, Descriptor.ofValue e.2 = .ok own ∧ own.default.isSome = true := by
  rcases fillDefault_inv h with rfl | ⟨d, written, hd, rfl⟩
  · exact .inl hk
  · obtain ⟨hmissing, -, own, hown, hdefault, -⟩ := defaultDescriptor?_inv hd
    rcases Mapping.mem_keys_put hk with hk | hk
    · exact .inr ⟨hk, hmissing, own, hown, hdefault⟩
    · exact .inl hk

theorem hasKey_fillDefault {cfg : Config} {m m' : Matrix} {e : Value × Value}
    (h : fillDefault cfg m e = .ok m') {key : Value} (hkey : Mapping.hasKey key m = true) :
    Mapping.hasKey key m' = true := by
  rcases fillDefault_inv h with rfl | ⟨d, written, -, rfl⟩
  · exact hkey
  · exact Mapping.hasKey_put hkey

/-- One default leaves the other fields alone. -/
theorem allAt_fillDefault_of_ne {cfg : Config} {m m' : Matrix} {e : Value × Value}
    (h : fillDefault cfg m e = .ok m') {field : String} (hne : e.1 ≠ .text field) :
    Mapping.allAt field m' = Mapping.allAt field m := by
  rcases fillDefault_inv h with rfl | ⟨d, written, -, rfl⟩
  · rfl
  · exact Mapping.allAt_put_of_ne hne written m

/-- The fields that the defaults add are fields of the template whose entries declare a default, and
the matrix lacks them. -/
theorem mem_keys_fillDefaults {cfg : Config} {template : Mapping Value} {m filled : Matrix}
    (h : template.foldlM (fillDefault cfg) m = .ok filled) {k : Value}
    (hk : k ∈ Mapping.keys filled) :
    k ∈ Mapping.keys m ∨ Mapping.hasKey k m = false ∧
      ∃ entry own, (k, entry) ∈ template ∧ Descriptor.ofValue entry = .ok own ∧
        own.default.isSome = true := by
  induction template generalizing m with
  | nil =>
      obtain rfl := Except.ok.inj h
      exact .inl hk
  | cons e rest ih =>
      rw [List.foldlM_cons] at h
      obtain ⟨m', hm', h⟩ := Except.bind_eq_ok h
      rcases ih h with hk | ⟨hmissing, entry, own, hmem, hown⟩
      · rcases mem_keys_fillDefault hm' hk with hk | ⟨rfl, hmissing, own, hown⟩
        · exact .inl hk
        · exact .inr ⟨hmissing, e.2, own, List.mem_cons_self, hown⟩
      · -- what a later matrix lacks, the earlier ones lack as well
        refine .inr ⟨?_, entry, own, List.mem_cons_of_mem _ hmem, hown⟩
        rw [Bool.eq_false_iff] at *
        exact fun hkey => hmissing (hasKey_fillDefault hm' hkey)

/-! ## Which fields got a default -/

/-- A filling that no fault stopped has its matrix and the fields that got a default. -/
theorem Filling.result_eq_ok_iff {filling : Filling} {m : Matrix} {defaulted : List Value} :
    filling.toLogged.result = .ok (m, defaulted) ↔
      filling.fault = none ∧ filling.matrix = m ∧ filling.defaulted = defaulted := by
  unfold toLogged
  cases filling.fault <;> simp

/-- The first entry of a template writes nothing, or its default, which marks its field. -/
theorem fillDefaults_cons_inv {cfg : Config} {name entry : Value} {rest : Mapping Value}
    {m filled : Matrix} {defaulted : List Value}
    (h : (fillDefaults cfg ((name, entry) :: rest) m).toLogged.result = .ok (filled, defaulted)) :
    (fillDefaults cfg rest m).toLogged.result = .ok (filled, defaulted) ∨
    ∃ d a reports more, defaultDescriptor? name entry cfg m = .ok (some d) ∧
      d.defaultAccumulator name = .ok (a, reports) ∧
      (fillDefaults cfg rest (Mapping.put name a m)).toLogged.result = .ok (filled, more) ∧
      defaulted = name :: more := by
  rw [fillDefaults] at h
  cases hd : defaultDescriptor? name entry cfg m with
  | error fault =>
      rw [hd] at h
      exact nomatch h
  | ok d? =>
      rw [hd] at h
      cases d? with
      | none => exact .inl h
      | some d =>
          dsimp only at h
          unfold Matrix.writeDefault at h
          cases ha : d.defaultAccumulator name with
          | error report =>
              rw [ha] at h
              exact .inl (Filling.result_eq_ok_iff.mpr (Filling.result_eq_ok_iff.mp h))
          | ok written =>
              rw [ha] at h
              obtain ⟨hfault, hmatrix, hdefaulted⟩ := Filling.result_eq_ok_iff.mp h
              exact .inr ⟨d, written.1, written.2, _, rfl, ha,
                Filling.result_eq_ok_iff.mpr ⟨hfault, hmatrix, rfl⟩, hdefaulted.symm⟩

/-- What the default of an entry of the template gathers for a field. -/
def DefaultOf (cfg : Config) (template : Mapping Value) (field : String) (a : Accumulator) : Prop :=
  ∃ entry d reports m, (.text field, entry) ∈ template ∧
    defaultDescriptor? (.text field) entry cfg m = .ok (some d) ∧
    d.defaultAccumulator (.text field) = .ok (a, reports)

theorem DefaultOf.cons {cfg : Config} {template : Mapping Value} {field : String} {a : Accumulator}
    (h : DefaultOf cfg template field a) (e : Value × Value) :
    DefaultOf cfg (e :: template) field a := by
  obtain ⟨entry, d, reports, m, hmem, hd⟩ := h
  exact ⟨entry, d, reports, m, List.mem_cons_of_mem _ hmem, hd⟩

/-- All the defaults, seen at one field: it is not marked and is left alone, or it is marked, the
matrix lacked it, and its default is all that there is. -/
theorem fillDefaults_at {cfg : Config} {template : Mapping Value} {m filled : Matrix}
    {defaulted : List Value}
    (h : (fillDefaults cfg template m).toLogged.result = .ok (filled, defaulted)) (field : String) :
    (.text field ∉ defaulted ∧ Mapping.allAt field filled = Mapping.allAt field m) ∨
    (.text field ∈ defaulted ∧ Mapping.allAt field m = [] ∧
      ∃ a, DefaultOf cfg template field a ∧ Mapping.allAt field filled = [a]) := by
  induction template generalizing m defaulted with
  | nil =>
      obtain ⟨rfl, rfl⟩ := Prod.mk.inj (Except.ok.inj h)
      exact .inl ⟨nofun, rfl⟩
  | cons e rest ih =>
      obtain ⟨name, entry⟩ := e
      rcases fillDefaults_cons_inv h with hrest | ⟨d, a, reports, more, hd, ha, hrest, rfl⟩
      · -- nothing is written for this entry
        refine (ih hrest).imp_right ?_
        rintro ⟨hmem, hnone, a, ha, hfilled⟩
        exact ⟨hmem, hnone, a, ha.cons _, hfilled⟩
      · by_cases hname : name = .text field
        · -- the field itself: its default is there, so that no other one is written
          subst hname
          have hmissing := (defaultDescriptor?_inv hd).1
          rw [Mapping.hasKey_text, Bool.not_eq_false', List.isEmpty_iff] at hmissing
          have hput : Mapping.allAt field (Mapping.put (.text field) a m) = [a] := by
            rw [Mapping.allAt_put_self, hmissing, List.tail_nil]
          refine .inr ⟨List.mem_cons_self, hmissing, a,
            ⟨entry, d, reports, m, List.mem_cons_self, hd, ha⟩, ?_⟩
          rcases ih hrest with ⟨-, hfilled⟩ | ⟨-, hnone, -⟩
          · rw [hfilled, hput]
          · rw [hput] at hnone
            exact nomatch hnone
        · -- another field: it is written and marked elsewhere
          have hother : Mapping.allAt field (Mapping.put name a m) = Mapping.allAt field m :=
            Mapping.allAt_put_of_ne hname a m
          have hmark : Value.text field ∈ name :: more ↔ .text field ∈ more := by
            rw [List.mem_cons, or_iff_right (Ne.symm hname)]
          rw [hmark, ← hother]
          refine (ih hrest).imp_right ?_
          rintro ⟨hmem, hnone, b, hb, hfilled⟩
          exact ⟨hmem, hnone, b, hb.cons _, hfilled⟩

/-! ## Two matrices -/

/-- Whether a field gets a default, and which, depends on whether the matrix has the field. -/
theorem defaultDescriptor?_of_hasKey {name : Value} {m n : Matrix}
    (h : Mapping.hasKey name m = Mapping.hasKey name n) (entry : Value) (cfg : Config) :
    defaultDescriptor? name entry cfg m = defaultDescriptor? name entry cfg n := by
  simp only [defaultDescriptor?, h]

theorem defaultDescriptor?_congr {field : String} {m n : Matrix}
    (h : Mapping.allAt field m = Mapping.allAt field n) (entry : Value) (cfg : Config) :
    defaultDescriptor? (.text field) entry cfg m = defaultDescriptor? (.text field) entry cfg n :=
  defaultDescriptor?_of_hasKey (by rw [Mapping.hasKey_text, Mapping.hasKey_text, h]) entry cfg

theorem Matrix.allAt_writeDefault_congr {field : String} {m n : Matrix}
    (h : Mapping.allAt field m = Mapping.allAt field n) (d : Descriptor) :
    Mapping.allAt field (m.writeDefault (.text field) d).matrix =
      Mapping.allAt field (n.writeDefault (.text field) d).matrix := by
  simp only [Matrix.writeDefault]
  cases d.defaultAccumulator (.text field) with
  | error report => exact h
  | ok written =>
      dsimp only
      rw [Mapping.allAt_put_self, Mapping.allAt_put_self, h]

/-- One default keeps two matrices equal at a field. -/
theorem allAt_fillDefault_congr {cfg : Config} {field : String} {m n m' n' : Matrix}
    {e : Value × Value} (h : Mapping.allAt field m = Mapping.allAt field n)
    (hm : fillDefault cfg m e = .ok m') (hn : fillDefault cfg n e = .ok n') :
    Mapping.allAt field m' = Mapping.allAt field n' := by
  obtain ⟨key, entry⟩ := e
  by_cases hkey : key = .text field
  · -- the field itself: the same default is written, or none
    subst hkey
    rw [fillDefault, defaultDescriptor?_congr h] at hm
    rw [fillDefault] at hn
    cases hd : defaultDescriptor? (.text field) entry cfg n with
    | error fault => rw [hd] at hn; cases hn
    | ok d =>
        rw [hd] at hm hn
        obtain rfl := Except.ok.inj hm
        obtain rfl := Except.ok.inj hn
        cases d with
        | none => exact h
        | some d => exact Matrix.allAt_writeDefault_congr h d
  · -- another field: its default may differ between the runs, but goes elsewhere
    rw [allAt_fillDefault_of_ne hm hkey, allAt_fillDefault_of_ne hn hkey, h]

/-- All the defaults keep two matrices equal at a field. -/
theorem allAt_fillDefaults_congr {cfg : Config} {field : String} {template : Mapping Value}
    {m n m' n' : Matrix} (h : Mapping.allAt field m = Mapping.allAt field n)
    (hm : template.foldlM (fillDefault cfg) m = .ok m')
    (hn : template.foldlM (fillDefault cfg) n = .ok n') :
    Mapping.allAt field m' = Mapping.allAt field n' := by
  induction template generalizing m n with
  | nil =>
      obtain rfl := Except.ok.inj hm
      obtain rfl := Except.ok.inj hn
      exact h
  | cons e rest ih =>
      rw [List.foldlM_cons] at hm hn
      obtain ⟨m₁, hm₁, hm⟩ := Except.bind_eq_ok hm
      obtain ⟨n₁, hn₁, hn⟩ := Except.bind_eq_ok hn
      exact ih (allAt_fillDefault_congr h hm₁ hn₁) hm hn

end QueryFilter
