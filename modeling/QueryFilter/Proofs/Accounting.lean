import QueryFilter.Proofs.Conflicts
import QueryFilter.Proofs.SortReading
import QueryFilter.Proofs.Sorting
import Mathlib.Data.List.Basic

/-!
# QueryFilter.Proofs.Accounting

Every field that was gathered is either shown by the filter or reported to have no value.

Two filters stand in a row. Settling drops the fields that it leaves without a value, and the
criteria leave out fields that hold nothing; the second one finds nothing to leave out. What the
first one drops can be told from what was gathered, without the steps of settling.

* `Diagnostic.unvalued?`: the field that is reported to have no value.
* `Schema.YieldsNoField`, `Schema.LeavesNothing`: the fields that nothing comes of.
* `exists_readSort_eq`: a sort that is read has no token on which reading fails, so it is told by
  what its tokens are by themselves.
* `readSort_eq_nil_iff`: a sort is read as nothing if none of its tokens yields a field.
* `Matrix.settleField_accounts`: one field is dropped and reported, or kept with something to show.
* `Matrix.settle_accounts`: a whole matrix.
-/

namespace QueryFilter

/-- The field that is reported to have no value. -/
def Diagnostic.unvalued? : Diagnostic → Option Value
  | .noValue name => some name
  | .noSortValue => some (.text FieldName.sort)
  | _ => none

/-! ## A sort that yields no field -/

/-- None of the tokens names a field that the schema accepts. -/
def Schema.YieldsNoField (s : Schema) (cfg : Config) (tokens : List Value) : Prop :=
  ∀ token ∈ tokens, ∀ field, ¬s.Reads cfg token (.accepted field)

namespace SortItem

theorem order_eq_nil_iff {items : List SortItem} :
    order items = [] ↔ ∀ name, .accepted name ∉ items := by
  induction items with
  | nil => simp [order]
  | cons item rest ih =>
      cases item with
      | accepted name =>
          exact iff_of_false (List.cons_ne_nil _ _) fun hnone => hnone name List.mem_cons_self
      | _ => simp [order, ih]

/-- What is reported of the tokens of a sort is never that a field has no value. -/
theorem unvalued?_reports (before : List SortItem) (reads : List (Value × SortItem)) :
    (reports before reads).filterMap Diagnostic.unvalued? = [] := by
  induction reads generalizing before with
  | nil => rfl
  | cons e rest ih =>
      obtain ⟨token, item⟩ := e
      have hreport : (report before token item).filterMap Diagnostic.unvalued? = [] := by
        cases item <;> simp only [report] <;> (try split) <;> rfl
      rw [reports, List.filterMap_append, hreport, ih, List.nil_append]

end SortItem

section Reading

variable {s : Schema} {cfg : Config}

/-- A token that is an accepted field is nothing else. -/
theorem Schema.Reads.eq_accepted {token field : Value} {item : SortItem}
    (hfield : s.Reads cfg token (.accepted field)) (h : s.Reads cfg token item) :
    item = .accepted field := by
  have hkind : item.kind = .field := Except.ok.inj (h.read_eq.symm.trans hfield.read_eq)
  cases item with
  | number n => exact absurd hkind (SortItem.kind_number n ▸ SortToken.ofNumber_ne_field n)
  | blank => exact nomatch hkind
  | accepted name =>
      have hsame := h.sortField?_accepted.symm.trans hfield.sortField?_accepted
      rw [Option.some.inj (Except.ok.inj hsame)]
  | rejected => exact nomatch h.sortField?_rejected.symm.trans hfield.sortField?_accepted

/-- A token on which the reader does not fail is something by itself. -/
theorem Schema.exists_item_of_read {token : Value} {kind : SortToken}
    (hread : SortToken.read token = .ok kind)
    (hfield : kind = .field → ∃ name?, s.sortField? cfg token = .ok name?) :
    ∃ item, s.Reads cfg token item := by
  unfold SortToken.read at hread
  obtain ⟨_ | n, hnumber, hread⟩ := Except.bind_eq_ok hread
  · cases hblank : SortToken.isBlank token with
    | true => exact ⟨.blank, .blank hnumber hblank⟩
    | false =>
        have hnames : NamesField token := ⟨hnumber, hblank⟩
        rw [hblank] at hread
        obtain ⟨name?, hname?⟩ := hfield (Except.ok.inj hread).symm
        cases hchecks : s.checksSort with
        | false => exact ⟨.accepted token, .unchecked hnames hchecks⟩
        | true =>
            unfold Schema.sortField? Schema.isSortable at hname?
            rw [if_pos hchecks] at hname?
            obtain ⟨name, hname, hname?⟩ := Except.bind_eq_ok hname?
            obtain ⟨found, hfound, -⟩ := Except.bind_eq_ok hname?
            obtain ⟨entry, hentry, -⟩ := Except.bind_eq_ok hfound
            cases hknown : entry.isEntry with
            | true => exact ⟨.accepted name, .found hnames hchecks hname hentry hknown⟩
            | false => exact ⟨.rejected, .notFound hnames hchecks hname hentry hknown⟩
  · exact ⟨.number n, .number hnumber⟩

/-- A sort that is read has no token on which reading fails. -/
theorem exists_reads_of_readSort {expecting : Bool} {tokens values : List Value}
    (h : (readSort s cfg expecting tokens).result = .ok values) :
    ∀ token ∈ tokens, ∃ item, s.Reads cfg token item := by
  induction tokens generalizing expecting values with
  | nil => exact nofun
  | cons token rest ih =>
      rw [readSort] at h
      obtain ⟨kind, hkind, h⟩ := Logged.result_bind_ok h
      refine List.forall_mem_cons.mpr ⟨Schema.exists_item_of_read hkind ?_, ?_⟩
      · rintro rfl
        obtain ⟨name?, hname?, -⟩ := Logged.result_bind_ok h
        exact ⟨name?, hname?⟩
      · cases kind with
        | direction d =>
            cases expecting with
            | true =>
                obtain ⟨more, hmore, -⟩ := Logged.result_bind_ok h
                exact ih hmore
            | false => exact ih h
        | stray => exact ih h
        | field =>
            obtain ⟨_ | name, -, h⟩ := Logged.result_bind_ok h
            · obtain ⟨_, -, h⟩ := Logged.result_bind_ok h
              obtain ⟨more, hmore, -⟩ := Logged.result_bind_ok h
              exact ih hmore
            · obtain ⟨more, hmore, -⟩ := Logged.result_bind_ok h
              exact ih hmore

/-- What is read of a sort, and reported, is told by what its tokens are by themselves. -/
theorem exists_readSort_eq {tokens values : List Value}
    (h : (readSort s cfg false tokens).result = .ok values) :
    ∃ reads : List (Value × SortItem),
      reads.map Prod.fst = tokens ∧ (∀ e ∈ reads, s.Reads cfg e.1 e.2) ∧
      values = (SortItem.order (reads.map Prod.snd)).values ∧
      (readSort s cfg false tokens).diagnostics = SortItem.reports [] reads := by
  obtain ⟨reads, rfl, hreads⟩ := Schema.exists_reads (exists_reads_of_readSort h)
  have hread := readSort_from hreads []
  change readSort s cfg false _ = _ at hread
  rw [hread] at h ⊢
  exact ⟨reads, rfl, hreads, (Except.ok.inj h).symm, rfl⟩

/-- A sort is read as nothing exactly if no token yields a field. -/
theorem readSort_eq_nil_iff {tokens values : List Value}
    (h : (readSort s cfg false tokens).result = .ok values) :
    values = [] ↔ s.YieldsNoField cfg tokens := by
  obtain ⟨reads, rfl, hreads, rfl, -⟩ := exists_readSort_eq h
  rw [SortOrder.values_eq_nil_iff, SortItem.order_eq_nil_iff]
  constructor
  · -- the item of a token that yields a field would be among the items
    intro hnone token htoken field hfield
    obtain ⟨e, he, rfl⟩ := List.mem_map.mp htoken
    exact hnone field (List.mem_map.mpr ⟨e, he, hfield.eq_accepted (hreads e he)⟩)
  · intro hnone field hmem
    obtain ⟨e, he, hitem⟩ := List.mem_map.mp hmem
    exact hnone e.1 (List.mem_map_of_mem he) field (hitem ▸ hreads e he)

theorem unvalued?_readSort {tokens values : List Value}
    (h : (readSort s cfg false tokens).result = .ok values) :
    (readSort s cfg false tokens).diagnostics.filterMap Diagnostic.unvalued? = [] := by
  obtain ⟨reads, -, -, -, hreports⟩ := exists_readSort_eq h
  rw [hreports]
  exact SortItem.unvalued?_reports [] reads

end Reading

/-! ## Settling -/

/-- Nothing comes of a field: either no slot holds anything, or it is a sort of which no token
yields a field. -/
def Schema.LeavesNothing (s : Schema) (cfg : Config) (e : Value × Accumulator) : Prop :=
  e.2.Bare ∨
    FieldName.isSort e.1 = true ∧ e.2.eq.getD [] ≠ [] ∧ s.YieldsNoField cfg (e.2.eq.getD [])

namespace Accumulator

/-- Settling a field reports it to have no value exactly if nothing is left of it. -/
theorem unvalued?_settle (name : Value) (a : Accumulator) :
    (a.settle name).2.filterMap Diagnostic.unvalued? =
      if (a.settle name).1.isEmpty then [name] else [] := by
  have hduplicates : (a.withoutDuplicates name).2.filterMap Diagnostic.unvalued? = [] := by
    unfold withoutDuplicates
    dsimp only
    split <;> rfl
  rw [settle_snd, List.filterMap_append, List.filterMap_append, List.filterMap_append, hduplicates,
    reportEmpty]
  cases a.lowerConflict <;> cases a.upperConflict <;> cases (a.settle name).1.isEmpty <;> rfl

end Accumulator

namespace Matrix

variable {s : Schema} {cfg : Config}

/-- What settling made of a field accounts for it: it is dropped and reported once, if nothing comes
of it, and otherwise it is kept with something to show and not reported. -/
structure Accounts (s : Schema) (cfg : Config) (e : Value × Accumulator)
    (kept : Option Accumulator) (reports : List Diagnostic) : Prop where
  dropped_iff : kept = none ↔ s.LeavesNothing cfg e
  shows : ∀ b ∈ kept, b.criteria ≠ []
  reported : reports.filterMap Diagnostic.unvalued? = if kept.isNone then [e.1] else []

theorem settleSort_accounts {name : Value} {a : Accumulator} {kept : Option Accumulator}
    (hname : FieldName.isSort name = true) (htokens : a.eq.getD [] ≠ [])
    (h : (settleSort s cfg (a.eq.getD [])).result = .ok kept) :
    Accounts s cfg (name, a) kept (settleSort s cfg (a.eq.getD [])).diagnostics := by
  unfold settleSort at h ⊢
  obtain ⟨values, hread, h⟩ := Logged.result_bind_ok h
  have hnil := readSort_eq_nil_iff hread
  have hreports := unvalued?_readSort hread
  rw [Logged.diagnostics_bind_of_ok hread]
  cases values with
  | nil =>
      obtain rfl := Except.ok.inj h
      refine ⟨iff_of_true rfl (.inr ⟨hname, htokens, hnil.mp rfl⟩), nofun, ?_⟩
      rw [List.filterMap_append, hreports, Value.text_beq_iff.mp hname]
      rfl
  | cons v values =>
      obtain rfl := Except.ok.inj h
      refine ⟨iff_of_false nofun ?_, ?_, ?_⟩
      · rintro (hbare | ⟨-, -, hyields⟩)
        · exact htokens (hbare.collected .eq)
        · exact nomatch hnil.mpr hyields
      · intro b hb
        obtain rfl := Option.some.inj hb
        exact nofun
      · rw [List.filterMap_append, hreports]
        rfl

/-- One field is dropped and reported, or kept with something to show. -/
theorem settleField_accounts {name : Value} {a : Accumulator} {kept : Option Accumulator}
    (h : (settleField s cfg name a).result = .ok kept) :
    Accounts s cfg (name, a) kept (settleField s cfg name a).diagnostics := by
  unfold settleField at h ⊢
  dsimp only at h ⊢
  split at h
  next hsort =>
    rw [if_pos hsort]
    rw [Bool.and_eq_true, Bool.not_eq_true', List.isEmpty_eq_false_iff] at hsort
    exact settleSort_accounts hsort.1 hsort.2 h
  next hsort =>
    rw [if_neg hsort]
    -- a sort that comes here has no token, so only bare fields are dropped
    have hbare : s.LeavesNothing cfg (name, a) ↔ a.Bare := by
      refine or_iff_left fun hgiven => hsort ?_
      rw [hgiven.1, List.isEmpty_eq_false_iff.mpr hgiven.2.1]
      rfl
    have hempty : (a.settle name).1.isEmpty = true ↔ s.LeavesNothing cfg (name, a) := by
      rw [hbare, Accumulator.isEmpty_iff_bare, Accumulator.bare_settle_iff]
    obtain rfl := Except.ok.inj h
    refine ⟨?_, ?_, ?_⟩
    · rw [← hempty]
      simp
    · intro b hb
      split at hb
      next => exact nomatch hb
      next hne =>
        obtain rfl := Option.some.inj hb
        rwa [ne_eq, ← Accumulator.isEmpty_iff_criteria_eq_nil]
    · refine (a.unvalued?_settle name).trans ?_
      cases (a.settle name).1.isEmpty <;> rfl

/-- A matrix of fields that all have something to show is shown field by field. -/
theorem criteria_eq_map {m : Matrix} (h : ∀ e ∈ m, e.2.criteria ≠ []) :
    m.criteria = m.map fun e => (e.1, .mapping e.2.criteria) := by
  rw [criteria_eq_filterMap, ← List.filterMap_eq_map]
  refine List.filterMap_congr fun e he => ?_
  simp [Accumulator.criteria?, h e he]

open scoped Classical

/-- The fields of a settled matrix are those that something comes of, each with something to show.
The others are reported to have no value, once each. -/
theorem settle_partition {m settled : Matrix} (h : (m.settle s cfg).result = .ok settled) :
    (∀ e ∈ settled, e.2.criteria ≠ []) ∧
    Mapping.keys settled = Mapping.keys (m.filter fun e => ¬s.LeavesNothing cfg e) ∧
    (m.settle s cfg).diagnostics.filterMap Diagnostic.unvalued? =
      Mapping.keys (m.filter fun e => s.LeavesNothing cfg e) := by
  induction m generalizing settled with
  | nil =>
      obtain rfl := Except.ok.inj h
      exact ⟨List.forall_mem_nil _, rfl, rfl⟩
  | cons e rest ih =>
      obtain ⟨name, a⟩ := e
      rw [settle] at h ⊢
      obtain ⟨kept, hkept, h⟩ := Logged.result_bind_ok h
      have hfield := settleField_accounts hkept
      rw [Logged.diagnostics_bind_of_ok hkept, List.filterMap_append, hfield.reported]
      cases kept with
      | none =>
          have hnothing := hfield.dropped_iff.mp rfl
          obtain ⟨hshows, hkeys, hreports⟩ := ih h
          refine ⟨hshows, ?_, ?_⟩
          · rw [List.filter_cons_of_neg (by simpa using hnothing), hkeys]
          · rw [List.filter_cons_of_pos (by simpa using hnothing), hreports]
            rfl
      | some b =>
          have hsome : ¬s.LeavesNothing cfg (name, a) :=
            fun hnothing => Option.some_ne_none b (hfield.dropped_iff.mpr hnothing)
          obtain ⟨more, hmore, h⟩ := Logged.result_bind_ok h
          obtain rfl := Except.ok.inj h
          obtain ⟨hshows, hkeys, hreports⟩ := ih hmore
          refine ⟨List.forall_mem_cons.mpr ⟨hfield.shows b rfl, hshows⟩, ?_, ?_⟩
          · rw [List.filter_cons_of_pos (by simpa using hsome)]
            exact congrArg (name :: ·) hkeys
          · rw [List.filter_cons_of_neg (by simpa using hsome), ← hreports,
              Logged.diagnostics_bind_of_ok hmore]
            simp

/-- **Every field is accounted for.** Where settling does not fail, the filter shows each field that
is left, and shows something of it. In the order in which they were gathered, the fields that it
shows are those that something comes of, and the others are those that are reported to have no
value, each of them once. -/
theorem settle_accounts {m settled : Matrix} (h : (m.settle s cfg).result = .ok settled) :
    settled.criteria = settled.map (fun e => (e.1, .mapping e.2.criteria)) ∧
    (∀ e ∈ settled, e.2.criteria ≠ []) ∧
    (Mapping.keys settled.criteria).Sublist (Mapping.keys m) ∧
    Mapping.keys settled.criteria = Mapping.keys (m.filter fun e => ¬s.LeavesNothing cfg e) ∧
    (m.settle s cfg).diagnostics.filterMap Diagnostic.unvalued? =
      Mapping.keys (m.filter fun e => s.LeavesNothing cfg e) := by
  obtain ⟨hshows, hkeys, hreports⟩ := settle_partition h
  have hcriteria := criteria_eq_map hshows
  have hshown : Mapping.keys settled.criteria = Mapping.keys settled := by
    rw [hcriteria]
    simp [Mapping.keys]
  refine ⟨hcriteria, hshows, ?_, hshown.trans hkeys, hreports⟩
  rw [hshown, hkeys]
  exact List.filter_sublist.map Prod.fst

/-- A sort of which no token yields a field, though it has a bound as well, a field with nothing but
an empty list, and a field with bounds of which one says no more than the other. -/
def lostSort : Matrix :=
  [(.text "sort", { eq := some [.int (-1), .null, .text "name"], gte := .int 1 }),
    (.text "code", { ne := some [] }),
    (.text "price", { gt := .int 5, gte := .int 7 })]

theorem settle_accounts_lostSort :
    (lostSort.settle aliasSchema []).result = .ok [(.text "price", { gte := .int 7 })] ∧
    Mapping.keys (lostSort.filter fun e => ¬aliasSchema.LeavesNothing [] e) = [.text "price"] ∧
    Mapping.keys (lostSort.filter fun e => aliasSchema.LeavesNothing [] e) =
      [.text "sort", .text "code"] := by
  have h : (lostSort.settle aliasSchema []).result = .ok [(.text "price", { gte := .int 7 })] := by
    rfl
  obtain ⟨-, -, -, hkept, hlost⟩ := settle_accounts h
  exact ⟨h, hkept.symm.trans rfl, hlost.symm.trans rfl⟩

end Matrix

end QueryFilter
