import QueryFilter.Proofs.Compiling

/-!
# QueryFilter.Proofs.Isolation

Read-only fields are out of a request's reach. A schema whose template says that requests may not
filter on a field pins the field's entry in the filter: no request can add to it, change it, or keep
the field's default away.

* `Schema.Protects`: the template says so, and nothing else is asked for entries.
* `contributionsTo_protected`: no pair of any request contributes to such a field.
* `filter_readOnly_eq`: two requests have the same entry for it.

The proof relates two runs at one name. After the pairs, both matrices hold nothing under it; each
later stage keeps what they hold there equal, for it looks at nothing else when it decides about the
field.
-/

namespace QueryFilter

/-- The template is what entries are looked up in, and its entry for the field keeps requests
away. -/
structure Schema.Protects (s : Schema) (field : String) : Prop where
  /-- no function of the caller's takes the template's place -/
  lookup_none : s.lookup = none
  /-- the template's entry is one that counts, and it is read-only -/
  entry_readOnly : ∃ template entry d, s.template = some template ∧
    Mapping.find? field template = some entry ∧ entry.isEntry = true ∧
    Descriptor.ofValue entry = .ok d ∧ d.readOnly = true

/-! ## No contribution -/

/-- A protected field is rejected under every operator, whatever name a request wrote for it. -/
theorem Schema.Protects.check_eq_none {s : Schema} {field : String} (h : s.Protects field)
    (op : Operator) (cfg : Config) : (s.check (.text field) op cfg).result = .ok none := by
  obtain ⟨hlookup, template, entry, d, htemplate, hfind, hentry, hd, hro⟩ := h
  have hlook : s.lookup? = some (Schema.lookupIn template) := by
    simp only [Schema.lookup?]
    rw [hlookup, htemplate]
    rfl
  have hread : s.entry (.text field) cfg = .ok entry := by
    unfold Mapping.find? at hfind
    simp [Schema.entry, hlook, Schema.lookupIn, hfind, bind, Except.bind, pure, Except.pure]
  have haccepts : s.acceptsAll = false := by
    rw [Schema.acceptsAll, hlook]
    rfl
  simp only [Schema.check]
  -- an empty name is rejected before the schema is asked
  by_cases hname : (Value.text field).isTruthy = true
  · simp [hname, haccepts, hread, hentry, hd, Schema.checkEntry, hro, Logged.report]
  · simp [hname, Logged.report]

/-- No request contributes to a protected field, however it spells or a caller renames its keys. -/
theorem contributionsTo_protected {s : Schema} {field : String} (h : s.Protects field)
    {cfg : Config} {request : Request} {cs : List Contribution}
    (hcs : (s.contributions cfg request).result = .ok cs) : contributionsTo field cs = [] := by
  refine List.eq_nil_iff_forall_not_mem.mpr fun c hc => ?_
  obtain ⟨hmem, hname⟩ := name_of_mem_contributionsTo hc
  obtain ⟨pair, -, hpair⟩ := Schema.mem_contributions hcs hmem
  obtain ⟨d, -, -, hcheck, -⟩ := Schema.contribution?_inv hpair
  rw [hname, h.check_eq_none] at hcheck
  exact nomatch hcheck

/-! ## Two runs -/

/-- **Isolation of read-only fields.** Under a schema that protects a field, any two requests that
have a result have the same entry for the field in their filters, or neither has one. -/
theorem filter_readOnly_eq {s : Schema} {field : String} (hs : s.Protects field)
    (hfield : FieldName.isReserved (.text field) = false) {cfg : Config}
    (hcfg : Mapping.find? FieldName.query cfg = none) {fallback : Value}
    {request₁ request₂ : Request} {result₁ result₂ : Mapping Value}
    (h₁ : (compile s fallback request₁ cfg).result = .ok result₁)
    (h₂ : (compile s fallback request₂ cfg).result = .ok result₂) :
    ∃ filter₁ filter₂, Filters result₁ filter₁ ∧ Filters result₂ filter₂ ∧
      Mapping.find? field filter₁ = Mapping.find? field filter₂ := by
  obtain ⟨cs₁, filled₁, settled₁, p₁, hcs₁, hfill₁, hsettle₁, rfl⟩ := compile_inv h₁
  obtain ⟨cs₂, filled₂, settled₂, p₂, hcs₂, hfill₂, hsettle₂, rfl⟩ := compile_inv h₂
  refine ⟨_, _, filters_assemble hcfg p₁, filters_assemble hcfg p₂, ?_⟩
  -- neither request contributes to the field
  have hgathered : Mapping.allAt field (cs₁.foldl Matrix.grow []) =
      Mapping.allAt field (cs₂.foldl Matrix.grow []) := by
    rw [Matrix.allAt_gathered, Matrix.allAt_gathered, contributionsTo_protected hs hcs₁,
      contributionsTo_protected hs hcs₂]
  have hfilled : Mapping.allAt field filled₁ = Mapping.allAt field filled₂ :=
    allAt_fillDefaults_congr hgathered hfill₁ hfill₂
  -- from equal matrices settling and assembling lead to equal entries
  have hsort := isSort_eq_false_of_isReserved hfield
  rw [find?_filterOf hfield, find?_filterOf hfield, Mapping.find?_eq_head?_allAt,
    Mapping.find?_eq_head?_allAt, Matrix.allAt_criteria_of_settle hsort hsettle₁,
    Matrix.allAt_criteria_of_settle hsort hsettle₂, hfilled]

/-- A schema with an owner that requests may not choose, for which callers may write `o`. -/
def ownerSchema : Schema where
  template := some
    [(.text "owner", .mapping [(.text "read_only", .bool true), (.text "default", .int 7)]),
      (.text "size", .mapping [])]
  rename := some fun name _ => .ok (if name == .text "o" then .text "owner" else name)

/-- The filter that only the owner's default is in. -/
def ownerEntry : Value × Value := (.text "owner", .mapping [(.text "eq", .list [.int 7])])

/-- A request that asks for another owner in two spellings, and one that asks for nothing. -/
theorem filter_owner_eq :
    ownerSchema.Protects "owner" ∧
    (compile ownerSchema (.int 1)
      [("o", .text "8"), ("size<", .text "3"), ("owner>0", .text "")] []).result =
        .ok [(.text "query",
          .mapping [(.text "size", .mapping [(.text "lte", .int 3)]), ownerEntry])] ∧
    (compile ownerSchema (.int 1) [] []).result = .ok [(.text "query", .mapping [ownerEntry])] ∧
    ∃ filter₁ filter₂,
      Filters [(.text "query",
        .mapping [(.text "size", .mapping [(.text "lte", .int 3)]), ownerEntry])] filter₁ ∧
      Filters [(.text "query", .mapping [ownerEntry])] filter₂ ∧
      Mapping.find? "owner" filter₁ = Mapping.find? "owner" filter₂ := by
  have hs : ownerSchema.Protects "owner" :=
    ⟨rfl, _, _, _, rfl, rfl, rfl, rfl, rfl⟩
  have h₁ : (compile ownerSchema (.int 1)
      [("o", .text "8"), ("size<", .text "3"), ("owner>0", .text "")] []).result =
        .ok [(.text "query",
          .mapping [(.text "size", .mapping [(.text "lte", .int 3)]), ownerEntry])] := by rfl
  have h₂ : (compile ownerSchema (.int 1) [] []).result =
      .ok [(.text "query", .mapping [ownerEntry])] := by rfl
  exact ⟨hs, h₁, h₂, filter_readOnly_eq hs (by decide) rfl h₁ h₂⟩

end QueryFilter
