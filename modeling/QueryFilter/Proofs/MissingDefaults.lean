import QueryFilter.Proofs.Configured
import Mathlib.Data.List.Pairwise

/-!
# QueryFilter.Proofs.MissingDefaults

Exactly which defaults are written. Filling in the defaults asks for each entry of a template
whether the matrix lacks its key, and the matrix grows meanwhile. But no two keys of a template are
the same, so what was written before does not change the answer: every entry can be asked about the
matrix as it was in the beginning, and in any order.

* `Mapping.KeysDiffer`: no two keys are the same.
* `Effective`, `Due`: the descriptor whose default counts for a field, and when a default is due.
* `defaultDescriptor?_eq_some_iff`: the test for a default says that one is due.
* `outcome`, `additions`, `reportsOf`: what becomes of each entry by itself.
* `fillDefaults_eq`: the defaults are what becomes of the entries, one by one.
* `SuppliesDefaults`, `fillDefaults_supplies`: what is written and reported, and that the template's
  order does not matter.
-/

namespace QueryFilter

namespace Mapping

variable {α : Type}

/-- The keys of two entries are not the same. -/
def Differ (e f : Value × α) : Prop := (e.1 == f.1) = false ∧ (f.1 == e.1) = false

instance : Std.Symm (@Differ α) := ⟨fun _ _ h => ⟨h.2, h.1⟩⟩

/-- No two keys are the same. -/
def KeysDiffer (m : Mapping α) : Prop := m.Pairwise Differ

theorem KeysDiffer.perm {m n : Mapping α} (h : KeysDiffer m) (hperm : m.Perm n) : KeysDiffer n :=
  List.Perm.pairwise hperm h fun hdiffer => ⟨hdiffer.2, hdiffer.1⟩

theorem KeysDiffer.eq_or_differ {m : Mapping α} (h : KeysDiffer m) {e f : Value × α} (he : e ∈ m)
    (hf : f ∈ m) : e = f ∨ Differ e f := by
  by_cases heq : e = f
  · exact .inl heq
  · exact .inr (List.Pairwise.forall h he hf heq)

theorem hasKey_append (key : Value) (m n : Mapping α) :
    hasKey key (m ++ n) = (hasKey key m || hasKey key n) := by
  simp only [hasKey_eq_any_keys, keys_append, List.any_append]

end Mapping

/-! ## A default that is due -/

/-- The descriptor whose default counts for a field: that of the entry, or the one that the
configuration puts in its place. A mapping of the configuration is a descriptor itself, any other
value that counts is the default. -/
inductive Effective (cfg : Config) (name : Value) (own : Descriptor) : Descriptor → Prop
  | own : (topValue cfg name).isTruthy = false → Effective cfg name own own
  | mapping {entries : Mapping Value} {d : Descriptor} : topValue cfg name = .mapping entries →
      entries ≠ [] → Descriptor.ofFields entries = .ok d → Effective cfg name own d
  | bare : (topValue cfg name).isTruthy = true → (topValue cfg name).isMapping = false →
      Effective cfg name own { default := some (topValue cfg name) }

/-- A default is due for an entry of a template, and it is that of a descriptor. -/
structure Due (cfg : Config) (m : Matrix) (e : Value × Value) (d : Descriptor) : Prop where
  missing : Mapping.hasKey e.1 m = false
  entry_ne_null : e.2 ≠ .null
  declares : ∃ own, Descriptor.ofValue e.2 = .ok own ∧ own.default.isSome = true ∧
    Effective cfg e.1 own d
  /-- pagination that the configuration supplies is not a default to write -/
  unconfigured : FieldName.isReserved e.1 = true →
    (sectionValue cfg e.1).isTruthy = false ∧ (topValue cfg e.1).isTruthy = false

theorem overrideDescriptor_of_not_mapping {v : Value} (h : v.isMapping = false) :
    overrideDescriptor v = .ok { default := some v } := by
  cases v with
  | mapping entries => exact nomatch h
  | _ => rfl

theorem effective_iff {cfg : Config} {name : Value} {own d : Descriptor} :
    Effective cfg name own d ↔
      if (topValue cfg name).isTruthy then overrideDescriptor (topValue cfg name) = .ok d
      else d = own := by
  constructor
  · intro h
    cases h with
    | own hfalsy => simp [hfalsy]
    | mapping hmapping hne hd => simp [hmapping, Value.isTruthy, hne, overrideDescriptor, hd]
    | bare htruthy hother => simp [htruthy, overrideDescriptor_of_not_mapping hother]
  · intro h
    split at h
    next htruthy =>
      by_cases hmapping : (topValue cfg name).isMapping = true
      · cases hv : topValue cfg name with
        | mapping entries =>
            rw [hv] at htruthy h
            exact .mapping hv (by simpa [Value.isTruthy] using htruthy) h
        | _ => simp [hv, Value.isMapping] at hmapping
      · rw [Bool.not_eq_true] at hmapping
        rw [overrideDescriptor_of_not_mapping hmapping] at h
        obtain rfl := Except.ok.inj h
        exact .bare htruthy hmapping
    next hfalsy =>
      rw [h]
      exact .own (Bool.eq_false_iff.mpr hfalsy)

/-- The test for a default says that one is due. -/
theorem defaultDescriptor?_eq_some_iff {cfg : Config} {m : Matrix} {e : Value × Value}
    {d : Descriptor} : defaultDescriptor? e.1 e.2 cfg m = .ok (some d) ↔ Due cfg m e d := by
  constructor
  · intro h
    obtain ⟨hmissing, hnull, own, hown, hdefault, hoverride⟩ := defaultDescriptor?_inv h
    have hentry : e.2 ≠ .null :=
      fun hentry => Bool.eq_false_iff.mp hnull (Value.isNull_iff.mpr hentry)
    cases hreserved : FieldName.isReserved e.1 with
    | true =>
        split at hoverride
        next => exact nomatch hreserved.symm.trans hoverride.1
        next hfalsy =>
          rw [isTruthy_overriding hreserved, Bool.not_eq_true, Bool.or_eq_false_iff] at hfalsy
          rw [hoverride]
          exact ⟨hmissing, hentry, ⟨own, hown, hdefault, .own hfalsy.2⟩, fun _ => hfalsy⟩
    | false =>
        rw [overriding_of_not_reserved hreserved, hreserved] at hoverride
        refine ⟨hmissing, hentry, ⟨own, hown, hdefault, effective_iff.mpr ?_⟩, fun h => ?_⟩
        · simpa using hoverride
        · exact nomatch hreserved.symm.trans h
  · rintro ⟨hmissing, hentry, ⟨own, hown, hdefault, heffective⟩, hunconfigured⟩
    have hnull : e.2.isNull = false :=
      Bool.eq_false_iff.mpr fun hnull => hentry (Value.isNull_iff.mp hnull)
    obtain ⟨default, hdefault⟩ := Option.isSome_iff_exists.mp hdefault
    rw [effective_iff] at heffective
    simp only [defaultDescriptor?]
    rw [hmissing, hnull, hown]
    cases hreserved : FieldName.isReserved e.1 with
    | true =>
        have hfalsy := hunconfigured hreserved
        have hoverride := isTruthy_overriding hreserved cfg
        simp_all [bind, Except.bind, pure, Except.pure]
    | false =>
        rw [overriding_of_not_reserved hreserved]
        cases htruthy : (topValue cfg e.1).isTruthy <;>
          simp_all [bind, Except.bind, pure, Except.pure]

/-! ## Entry by entry -/

/-- What becomes of an entry of a template: nothing, or its default is gathered or rejected. -/
def outcome (cfg : Config) (m : Matrix) (e : Value × Value) :
    Option (Except Diagnostic (Accumulator × List Diagnostic)) :=
  match defaultDescriptor? e.1 e.2 cfg m with
  | .ok (some d) => some (d.defaultAccumulator e.1)
  | _ => none

/-- What is gathered for an entry, if anything is. -/
def written? (cfg : Config) (m : Matrix) (e : Value × Value) : Option Accumulator :=
  match outcome cfg m e with
  | some (.ok (a, _)) => some a
  | _ => none

/-- What is reported of an entry. -/
def reportsOf (cfg : Config) (m : Matrix) (e : Value × Value) : List Diagnostic :=
  match outcome cfg m e with
  | some (.ok (_, reports)) => reports
  | some (.error report) => [report]
  | none => []

/-- What the entries of a template add to a matrix. -/
def additions (cfg : Config) (m : Matrix) (template : Mapping Value) : Matrix :=
  template.filterMap fun e => (written? cfg m e).map (e.1, ·)

/-- Can it be told of each entry whether its default is due? -/
def Tellable (cfg : Config) (m : Matrix) (template : Mapping Value) : Prop :=
  ∀ e ∈ template, ∃ d?, defaultDescriptor? e.1 e.2 cfg m = .ok d?

theorem outcome_eq_some_iff {cfg : Config} {m : Matrix} {e : Value × Value}
    {r : Except Diagnostic (Accumulator × List Diagnostic)} :
    outcome cfg m e = some r ↔ ∃ d, Due cfg m e d ∧ d.defaultAccumulator e.1 = r := by
  simp only [← defaultDescriptor?_eq_some_iff, outcome]
  rcases hd : defaultDescriptor? e.1 e.2 cfg m with _ | _ | d <;> simp

theorem outcome_eq_none_iff {cfg : Config} {m : Matrix} {e : Value × Value} :
    outcome cfg m e = none ↔ ∀ d, ¬Due cfg m e d := by
  simp only [← defaultDescriptor?_eq_some_iff, outcome]
  rcases hd : defaultDescriptor? e.1 e.2 cfg m with _ | _ | d <;> simp

theorem written?_eq_some_iff {cfg : Config} {m : Matrix} {e : Value × Value} {a : Accumulator} :
    written? cfg m e = some a ↔
      ∃ d reports, Due cfg m e d ∧ d.defaultAccumulator e.1 = .ok (a, reports) := by
  have hwritten : written? cfg m e = some a ↔
      ∃ reports, outcome cfg m e = some (.ok (a, reports)) := by
    unfold written?
    rcases outcome cfg m e with _ | _ | ⟨b, reports⟩ <;> simp
  rw [hwritten]
  simp only [outcome_eq_some_iff]
  exact exists_comm

/-- An entry with another key does not change what becomes of an entry. -/
theorem defaultDescriptor?_append {cfg : Config} {m : Matrix} {e : Value × Value} {name : Value}
    (h : (e.1 == name) = false) (a : Accumulator) :
    defaultDescriptor? e.1 e.2 cfg (m ++ [(name, a)]) = defaultDescriptor? e.1 e.2 cfg m := by
  refine defaultDescriptor?_of_hasKey ?_ e.2 cfg
  rw [Mapping.hasKey_append, Mapping.hasKey_eq_any_keys e.1 [(name, a)]]
  simp [Mapping.keys, h]

theorem outcome_append {cfg : Config} {m : Matrix} {e : Value × Value} {name : Value}
    (h : (e.1 == name) = false) (a : Accumulator) :
    outcome cfg (m ++ [(name, a)]) e = outcome cfg m e := by
  unfold outcome
  rw [defaultDescriptor?_append h]

theorem additions_congr {cfg : Config} {m n : Matrix} {template : Mapping Value}
    (h : ∀ e ∈ template, outcome cfg m e = outcome cfg n e) :
    additions cfg m template = additions cfg n template :=
  List.filterMap_congr fun e he => by rw [written?, written?, h e he]

theorem flatMap_reportsOf_congr {cfg : Config} {m n : Matrix} {template : Mapping Value}
    (h : ∀ e ∈ template, outcome cfg m e = outcome cfg n e) :
    template.flatMap (reportsOf cfg m) = template.flatMap (reportsOf cfg n) :=
  List.flatMap_congr fun e he => by rw [reportsOf, reportsOf, h e he]

/-- The defaults are what becomes of the entries, each asked about the matrix as it was before. -/
theorem fillDefaults_eq {cfg : Config} {template : Mapping Value} {m : Matrix}
    (hkeys : Mapping.KeysDiffer template) (htell : Tellable cfg m template) :
    fillDefaults cfg template m =
      ⟨m ++ additions cfg m template, Mapping.keys (additions cfg m template),
        template.flatMap (reportsOf cfg m), none⟩ := by
  induction template generalizing m with
  | nil => simp [fillDefaults, additions, Mapping.keys]
  | cons e rest ih =>
      obtain ⟨name, entry⟩ := e
      obtain ⟨hdiffer, hrest⟩ := List.pairwise_cons.mp hkeys
      obtain ⟨d?, hd⟩ := htell _ List.mem_cons_self
      have htell_rest : Tellable cfg m rest := fun e he => htell e (List.mem_cons_of_mem _ he)
      rw [fillDefaults, hd]
      cases d? with
      | none =>
          simp [ih hrest htell_rest, additions, written?, reportsOf, outcome, hd]
      | some d =>
          cases ha : d.defaultAccumulator name with
          | error report =>
              simp [Matrix.writeDefault, ha, ih hrest htell_rest, additions, written?, reportsOf,
                outcome, hd]
          | ok written =>
              obtain ⟨a, reports⟩ := written
              -- what is written goes to the end, where the other entries do not see it
              have hput : Mapping.put name a m = m ++ [(name, a)] :=
                Mapping.put_of_not_hasKey (defaultDescriptor?_inv hd).1
              have hsame : ∀ e ∈ rest, outcome cfg (m ++ [(name, a)]) e = outcome cfg m e :=
                fun e he => outcome_append (hdiffer e he).2 a
              have htell' : Tellable cfg (m ++ [(name, a)]) rest := fun e he =>
                (defaultDescriptor?_append (hdiffer e he).2 a).symm ▸ htell_rest e he
              have hwritten : m.writeDefault name d = ⟨m ++ [(name, a)], true, reports⟩ := by
                simp [Matrix.writeDefault, ha, hput]
              have hfirst : outcome cfg m (name, entry) = some (.ok (a, reports)) := by
                simp [outcome, hd, ha]
              simp only [hwritten, ih hrest htell', additions_congr hsame,
                flatMap_reportsOf_congr hsame, if_true]
              simp [additions, written?, reportsOf, hfirst, Mapping.keys]

/-- A filling without a fault could tell of each entry whether its default is due. -/
theorem tellable_of_fillDefaults {cfg : Config} {template : Mapping Value} {m filled : Matrix}
    {defaulted : List Value} (hkeys : Mapping.KeysDiffer template)
    (h : (fillDefaults cfg template m).toLogged.result = .ok (filled, defaulted)) :
    Tellable cfg m template := by
  induction template generalizing m defaulted with
  | nil => simp [Tellable]
  | cons e rest ih =>
      obtain ⟨name, entry⟩ := e
      obtain ⟨hdiffer, hrest⟩ := List.pairwise_cons.mp hkeys
      intro e he
      rcases List.mem_cons.mp he with rfl | he
      · cases hd : defaultDescriptor? name entry cfg m with
        | error fault => simp [fillDefaults, hd, Filling.toLogged] at h
        | ok d? => exact ⟨d?, rfl⟩
      · rcases fillDefaults_cons_inv h with hmore | ⟨d, a, reports, more, hd, -, hmore, -⟩
        · exact ih hrest hmore e he
        · rw [Mapping.put_of_not_hasKey (defaultDescriptor?_inv hd).1] at hmore
          obtain ⟨d?, hd?⟩ := ih hrest hmore e he
          exact ⟨d?, (defaultDescriptor?_append (hdiffer e he).2 a).symm.trans hd?⟩

/-! ## All the defaults -/

/-- What is reported of an entry: nothing, if no default is due; what its default reports, if it is
gathered; and one report, if it is rejected. -/
inductive Reported (cfg : Config) (m : Matrix) : Value × Value → List Diagnostic → Prop
  | notDue {e : Value × Value} : (∀ d, ¬Due cfg m e d) → Reported cfg m e []
  | gathered {e : Value × Value} {d : Descriptor} {a : Accumulator} {reports : List Diagnostic} :
      Due cfg m e d → d.defaultAccumulator e.1 = .ok (a, reports) → Reported cfg m e reports
  | rejected {e : Value × Value} {d : Descriptor} {report : Diagnostic} :
      Due cfg m e d → d.defaultAccumulator e.1 = .error report → Reported cfg m e [report]

/-- What filling in the defaults of a template does to a matrix. -/
structure SuppliesDefaults (cfg : Config) (template : Mapping Value) (m filled : Matrix)
    (defaulted : List Value) (reports : List Diagnostic) : Prop where
  /-- what was there stays as it is, and the marked fields are those that are added, each with what
  its default gathers -/
  added : ∃ added, filled = m ++ added ∧ Mapping.keys added = defaulted ∧
    ∀ name a, (name, a) ∈ added → ∃ entry d reports, (name, entry) ∈ template ∧
      Due cfg m (name, entry) d ∧ d.defaultAccumulator name = .ok (a, reports)
  order : defaulted.Sublist (Mapping.keys template)
  mem_iff : ∀ name, name ∈ defaulted ↔ ∃ entry d gathered, (name, entry) ∈ template ∧
    Due cfg m (name, entry) d ∧ d.defaultAccumulator name = .ok gathered
  /-- a rejected default leaves no entry -/
  rejected : ∀ name entry d report, (name, entry) ∈ template → Due cfg m (name, entry) d →
    d.defaultAccumulator name = .error report → Mapping.hasKey name filled = false
  reports : ∃ parts, List.Forall₂ (Reported cfg m) template parts ∧ reports = parts.flatten

theorem reported_reportsOf (cfg : Config) (m : Matrix) (e : Value × Value) :
    Reported cfg m e (reportsOf cfg m e) := by
  unfold reportsOf
  rcases ho : outcome cfg m e with _ | report | ⟨a, reports⟩
  · exact .notDue (outcome_eq_none_iff.mp ho)
  · obtain ⟨d, hdue, ha⟩ := outcome_eq_some_iff.mp ho
    exact .rejected hdue ha
  · obtain ⟨d, hdue, ha⟩ := outcome_eq_some_iff.mp ho
    exact .gathered hdue ha

theorem mem_additions_iff {cfg : Config} {m : Matrix} {template : Mapping Value} {name : Value}
    {a : Accumulator} : (name, a) ∈ additions cfg m template ↔ ∃ entry d reports,
      (name, entry) ∈ template ∧ Due cfg m (name, entry) d ∧
        d.defaultAccumulator name = .ok (a, reports) := by
  simp only [additions, List.mem_filterMap, Option.map_eq_some_iff, Prod.mk.injEq]
  constructor
  · rintro ⟨e, he, b, hb, rfl, rfl⟩
    obtain ⟨d, reports, hdue, ha⟩ := written?_eq_some_iff.mp hb
    exact ⟨e.2, d, reports, he, hdue, ha⟩
  · rintro ⟨entry, d, reports, he, hdue, ha⟩
    exact ⟨(name, entry), he, a, written?_eq_some_iff.mpr ⟨d, reports, hdue, ha⟩, rfl, rfl⟩

/-- The fields that are added are those of entries of the template, in their order. -/
theorem keys_additions_sublist (cfg : Config) (m : Matrix) (template : Mapping Value) :
    (Mapping.keys (additions cfg m template)).Sublist (Mapping.keys template) := by
  induction template with
  | nil => exact List.Sublist.refl _
  | cons e rest ih =>
      unfold additions at *
      rw [List.filterMap_cons]
      cases written? cfg m e with
      | none => exact ih.cons _
      | some a => exact ih.cons_cons _

theorem suppliesDefaults_additions {template : Mapping Value}
    (hkeys : Mapping.KeysDiffer template) (cfg : Config) (m : Matrix) :
    SuppliesDefaults cfg template m (m ++ additions cfg m template)
      (Mapping.keys (additions cfg m template)) (template.flatMap (reportsOf cfg m)) where
  added := ⟨_, rfl, rfl, fun name a ha => mem_additions_iff.mp ha⟩
  order := keys_additions_sublist cfg m template
  mem_iff name := by
    have hmem : name ∈ Mapping.keys (additions cfg m template) ↔
        ∃ a, (name, a) ∈ additions cfg m template := by
      simp [Mapping.keys]
    rw [hmem]
    simp only [mem_additions_iff]
    constructor
    · rintro ⟨a, entry, d, reports, hgathered⟩
      exact ⟨entry, d, (a, reports), hgathered⟩
    · rintro ⟨entry, d, ⟨a, reports⟩, hgathered⟩
      exact ⟨a, entry, d, reports, hgathered⟩
  rejected := by
    intro name entry d report he hdue hreport
    rw [Mapping.hasKey_append, hdue.missing, Bool.false_or, Mapping.hasKey_eq_any_keys,
      List.any_eq_false]
    intro key hkey
    obtain ⟨⟨_, a⟩, ha, rfl⟩ := List.mem_map.mp hkey
    obtain ⟨entry', d', reports, he', hdue', ha⟩ := mem_additions_iff.mp ha
    rcases hkeys.eq_or_differ he he' with heq | hdiffer
    · -- one entry has one outcome
      obtain ⟨rfl, rfl⟩ := Prod.mk.inj heq
      have hone := (outcome_eq_some_iff.mpr ⟨d, hdue, hreport⟩).symm.trans
        (outcome_eq_some_iff.mpr ⟨d', hdue', ha⟩)
      simp at hone
    · exact Bool.eq_false_iff.mp hdiffer.1
  reports := by
    refine ⟨template.map (reportsOf cfg m), ?_, List.flatMap_def⟩
    rw [List.forall₂_map_right_iff, List.forall₂_same]
    exact fun e _ => reported_reportsOf cfg m e

/-- **Exactly the missing defaults.** Filling in the defaults of a template, no two of whose keys
are the same, adds the fields that get one behind those that were there, and marks them. These are
the fields of the entries whose default is due and can be gathered; of one that is due and cannot be
gathered there is one report and no entry. Another order of the template leads to another order of
what is added, and to nothing else. -/
theorem fillDefaults_supplies {cfg : Config} {template : Mapping Value} {m filled : Matrix}
    {defaulted : List Value} (hkeys : Mapping.KeysDiffer template)
    (h : (fillDefaults cfg template m).toLogged.result = .ok (filled, defaulted)) :
    SuppliesDefaults cfg template m filled defaulted (fillDefaults cfg template m).diagnostics ∧
    ∀ other : Mapping Value, template.Perm other → ∃ filled' defaulted',
      (fillDefaults cfg other m).toLogged.result = .ok (filled', defaulted') ∧
      filled.Perm filled' ∧ defaulted.Perm defaulted' := by
  have htell := tellable_of_fillDefaults hkeys h
  rw [fillDefaults_eq hkeys htell] at h ⊢
  obtain ⟨-, rfl, rfl⟩ := Filling.result_eq_ok_iff.mp h
  refine ⟨suppliesDefaults_additions hkeys cfg m, fun other hother => ?_⟩
  have hadditions : (additions cfg m template).Perm (additions cfg m other) := hother.filterMap _
  rw [fillDefaults_eq (hkeys.perm hother) fun e he => htell e (hother.mem_iff.mpr he)]
  exact ⟨_, _, rfl, hadditions.append_left m, hadditions.map Prod.fst⟩

/-- A template with a default that can be gathered, one that cannot, one in whose place the
configuration has another, and one that the configuration keeps away. -/
def stockTemplate : Mapping Value :=
  [(.text "status", .mapping [(.text "default", .text "open")]),
    (.text "range", .mapping [(.text "default", .mapping [(.text "from", .int 1)])]),
    (.text "size", .mapping [(.text "default", .int 1)]),
    (.text "page_no", .mapping [(.text "default", .int 1)])]

/-- A configuration with a size and a page number. -/
def stockConfig : Config :=
  [(.text "pagination", .mapping [(.text "page_no", .int 2)]), (.text "size", .int 3)]

/-- A matrix in which something is gathered for a name. -/
def namedMatrix : Matrix := [(.text "name", { eq := some [.text "red"] })]

/-- The same with the defaults. -/
def stockMatrix : Matrix :=
  [(.text "name", { eq := some [.text "red"] }), (.text "status", { eq := some [.text "open"] }),
    (.text "size", { eq := some [.int 3] })]

theorem stockTemplate_supplies :
    Mapping.KeysDiffer stockTemplate ∧
    (fillDefaults stockConfig stockTemplate namedMatrix).toLogged.result =
      .ok (stockMatrix, [.text "status", .text "size"]) ∧
    SuppliesDefaults stockConfig stockTemplate namedMatrix stockMatrix
      [.text "status", .text "size"]
      (fillDefaults stockConfig stockTemplate namedMatrix).diagnostics ∧
    ∀ other : Mapping Value, stockTemplate.Perm other → ∃ filled' defaulted',
      (fillDefaults stockConfig other namedMatrix).toLogged.result = .ok (filled', defaulted') ∧
      stockMatrix.Perm filled' ∧ [Value.text "status", .text "size"].Perm defaulted' := by
  have hkeys : Mapping.KeysDiffer stockTemplate := by
    unfold Mapping.KeysDiffer Mapping.Differ
    decide
  have h : (fillDefaults stockConfig stockTemplate namedMatrix).toLogged.result =
      .ok (stockMatrix, [.text "status", .text "size"]) := by rfl
  exact ⟨hkeys, h, fillDefaults_supplies hkeys h⟩

end QueryFilter
