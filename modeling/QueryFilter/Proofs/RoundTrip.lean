import QueryFilter.Proofs.Paging
import QueryFilter.Proofs.Settling
import QueryFilter.Proofs.Wire
import Mathlib.Data.List.Nodup

/-!
# QueryFilter.Proofs.RoundTrip

Every canonical filter is the filter of some request: its slots, spelled one by one and put in any
order, compile to it.

* `FieldFilter`, `Slot`, `CanonicalFilter`: filters over atoms and patterns, and what makes one
  canonical.
* `CanonicalFilter.spelling`, `CanonicalFilter.entries`: a filter as a request and as a mapping.
* `valuesUnder_contributionsTo`: in any order each operator of each field receives its own values.
* `FieldFilter.Receives.criteria`, `FieldFilter.Receives.settle_reports`: what a field gathers is its
  filter, and settling finds nothing to mend.
* `compile_spelling`: the round trip.
-/

namespace QueryFilter

/-! ## Filters -/

/-- An atom as a text with its value. -/
def Atom.literal (a : Atom) : String × Value := (a.text, a.value)

/-- What a filter asks of one field: lists, empty where nothing is asked, and single values. -/
structure FieldFilter where
  eq : List Atom := []
  ne : List Atom := []
  bt : List Atom := []
  gt : Option Atom := none
  gte : Option Atom := none
  lte : Option Atom := none
  lt : Option Atom := none
  regex : Option { s : String // IsPattern s } := none

/-- An operator with the texts and values that are given for it. -/
structure Slot where
  operator : Operator
  literals : List (String × Value)

/-- The value that a filter holds for an operator: a list, or a single value. -/
def Slot.value (slot : Slot) : Value :=
  match slot.operator with
  | .collect _ => .list (slot.literals.map Prod.snd)
  | .bound _ => (slot.literals.map Prod.snd).headD .null

namespace FieldFilter

/-- The texts and values under an operator. -/
def literals (f : FieldFilter) : Operator → List (String × Value)
  | .eq => f.eq.map Atom.literal
  | .ne => f.ne.map Atom.literal
  | .bt => f.bt.map Atom.literal
  | .gt => f.gt.toList.map Atom.literal
  | .gte => f.gte.toList.map Atom.literal
  | .lte => f.lte.toList.map Atom.literal
  | .lt => f.lt.toList.map Atom.literal
  | .regex => f.regex.toList.map fun p => (p.1, .text p.1)

/-- The slots that are given something, in the order of the operators. -/
def slots (f : FieldFilter) : List Slot :=
  Operator.all.filterMap fun op =>
    if (f.literals op).isEmpty then none else some ⟨op, f.literals op⟩

/-- The field's filter as a mapping from operators' names. -/
def entries (f : FieldFilter) : Mapping Value :=
  f.slots.map fun slot => (.text slot.operator.name, slot.value)

/-- Lists hold an atom once, no strict bound is void beside the other one of its side, and something
is asked. Atoms that have no common order are not void. -/
structure Canonical (f : FieldFilter) : Prop where
  eq_nodup : f.eq.Nodup
  ne_nodup : f.ne.Nodup
  lower : ∀ strict ∈ f.gt, ∀ loose ∈ f.gte, strict.value.notAbove loose.value = false
  upper : ∀ loose ∈ f.lte, ∀ strict ∈ f.lt, loose.value.notAbove strict.value = false
  slots_ne_nil : f.slots ≠ []

end FieldFilter

/-- The slots of a list of fields, each with its field. -/
def slotsOfFields (fields : List (String × FieldFilter)) : List (String × Slot) :=
  fields.flatMap fun e => e.2.slots.map fun slot => (e.1, slot)

/-- A filter that a request can spell, as fields with what it asks of each. -/
structure CanonicalFilter where
  fields : List (String × FieldFilter)
  names_nodup : (fields.map Prod.fst).Nodup
  isFieldName : ∀ e ∈ fields, IsFieldName e.1
  canonical : ∀ e ∈ fields, e.2.Canonical

namespace CanonicalFilter

/-- The filter as a mapping. -/
def entries (q : CanonicalFilter) : Mapping Value :=
  q.fields.map fun e => (.text e.1, .mapping e.2.entries)

/-- The slots of all fields, each with its field. -/
def slots (q : CanonicalFilter) : List (String × Slot) := slotsOfFields q.fields

/-- The filter as a request: each slot spelled in a pair of its own. -/
def spelling (q : CanonicalFilter) : Request :=
  q.slots.map fun e => wire e.1 (e.2.literals.map Prod.fst) e.2.operator

end CanonicalFilter

/-! ## Slots can be spelled -/

theorem Spellable.of_atoms {op : Operator} (hop : op ≠ .regex) {atoms : List Atom}
    (hne : atoms.map Atom.literal ≠ []) : Spellable op (atoms.map Atom.literal) := by
  refine ⟨hne, ?_, ?_, fun h => absurd h hop⟩
  · intro l hl
    obtain ⟨a, -, rfl⟩ := List.mem_map.mp hl
    exact a.legible
  · intro _ l hl
    obtain ⟨a, -, rfl⟩ := List.mem_map.mp hl
    exact a.no_mark

/-- What is given for an operator can be spelled. -/
theorem FieldFilter.spellable {f : FieldFilter} {op : Operator} (h : f.literals op ≠ []) :
    Spellable op (f.literals op) := by
  rcases op with op | op <;> cases op
  · exact .of_atoms (by decide) h
  · exact .of_atoms (by decide) h
  · exact .of_atoms (by decide) h
  · -- the pattern, which may hold marks and stands alone
    cases hregex : f.regex with
    | none => exact absurd (by simp [literals, hregex]) h
    | some p =>
        have hliterals : f.literals .regex = [(p.1, .text p.1)] := by
          simp [literals, hregex]
        rw [hliterals]
        refine ⟨List.cons_ne_nil _ _, ?_, fun hop => absurd rfl hop, fun _ => ⟨_, rfl⟩⟩
        intro l hl
        rw [List.mem_singleton.mp hl]
        exact p.2.legible
  · exact .of_atoms (by decide) h
  · exact .of_atoms (by decide) h
  · exact .of_atoms (by decide) h
  · exact .of_atoms (by decide) h

theorem FieldFilter.mem_slots {f : FieldFilter} {slot : Slot} :
    slot ∈ f.slots ↔ f.literals slot.operator ≠ [] ∧ slot.literals = f.literals slot.operator := by
  simp only [slots]
  rw [List.mem_filterMap]
  constructor
  · intro hgiven
    obtain ⟨op, -, hslot⟩ := hgiven
    split at hslot
    next => exact nomatch hslot
    next hne =>
      obtain rfl := Option.some.inj hslot
      exact ⟨by simpa using hne, rfl⟩
  · intro hgiven
    obtain ⟨hne, hliterals⟩ := hgiven
    refine ⟨slot.operator, Operator.mem_all _, ?_⟩
    rw [if_neg (by simpa using hne), ← hliterals]

theorem CanonicalFilter.mem_slots {q : CanonicalFilter} {e : String × Slot} :
    e ∈ q.slots ↔ ∃ f, (e.1, f) ∈ q.fields ∧ e.2 ∈ f.slots := by
  obtain ⟨name, slot⟩ := e
  simp only [slots, slotsOfFields, List.mem_flatMap, List.mem_map, Prod.mk.injEq, Prod.exists]
  constructor
  · intro hgiven
    obtain ⟨n, f, hf, s, hs, rfl, rfl⟩ := hgiven
    exact ⟨f, hf, hs⟩
  · intro hgiven
    obtain ⟨f, hf, hs⟩ := hgiven
    exact ⟨name, f, hf, slot, hs, rfl, rfl⟩

/-! ## Contributions -/

/-- What the pair of a slot adds. -/
def Slot.contribution (e : String × Slot) : Contribution :=
  ⟨.text e.1, e.2.operator, e.2.literals.map Prod.snd⟩

/-- Pairs that spell slots add what the slots hold, and nothing is reported. -/
theorem contributions_wire (cfg : Config) {slots : List (String × Slot)}
    (hname : ∀ e ∈ slots, IsFieldName e.1)
    (hspell : ∀ e ∈ slots, Spellable e.2.operator e.2.literals) :
    (({} : Schema).contributions cfg
      (slots.map fun e => wire e.1 (e.2.literals.map Prod.fst) e.2.operator)).Clean
        (slots.map Slot.contribution) := by
  induction slots with
  | nil => exact ⟨rfl, rfl⟩
  | cons e rest ih =>
      have hfirst := contribution?_wire cfg (hname e List.mem_cons_self)
        (hspell e List.mem_cons_self)
      have hrest := ih (fun e' he => hname e' (List.mem_cons_of_mem _ he))
        (fun e' he => hspell e' (List.mem_cons_of_mem _ he))
      rw [List.map_cons, Schema.contributions, hfirst]
      refine Logged.clean_bind_iff.mpr ⟨_, ⟨rfl, rfl⟩, ?_⟩
      exact Logged.clean_bind_iff.mpr ⟨_, hrest, rfl, rfl⟩

/-- A reordering of a mapped list is a mapped reordering. -/
theorem exists_perm_map {α β : Type} {f : α → β} {l : List α} {r : List β}
    (h : r.Perm (l.map f)) : ∃ l' : List α, l'.Perm l ∧ r = l'.map f := by
  generalize hs : l.map f = s at h
  induction h generalizing l with
  | nil => exact ⟨[], by simpa using hs, rfl⟩
  | @cons b r s hp ih =>
      obtain ⟨a, l, rfl, rfl, rfl⟩ := List.map_eq_cons_iff.mp hs
      obtain ⟨l', hl', rfl⟩ := ih rfl
      exact ⟨a :: l', hl'.cons a, rfl⟩
  | swap b c s =>
      obtain ⟨a, l, rfl, rfl, hl⟩ := List.map_eq_cons_iff.mp hs
      obtain ⟨a', l, rfl, rfl, rfl⟩ := List.map_eq_cons_iff.mp hl
      exact ⟨a' :: a :: l, .swap a a' l, rfl⟩
  | trans h₁ h₂ ih₁ ih₂ =>
      obtain ⟨l₂, hl₂, rfl⟩ := ih₂ hs
      obtain ⟨l₁, hl₁, rfl⟩ := ih₁ rfl
      exact ⟨l₁, hl₁.trans hl₂, rfl⟩

/-! ## What each field receives -/

theorem contributionsTo_slots_self (name : String) (slots : List Slot) :
    contributionsTo name (slots.map fun slot => Slot.contribution (name, slot)) =
      slots.map fun slot => Slot.contribution (name, slot) := by
  refine List.filter_eq_self.mpr fun c hc => ?_
  obtain ⟨slot, -, rfl⟩ := List.mem_map.mp hc
  exact Value.text_beq_iff.mpr rfl

theorem contributionsTo_slots_of_ne {name other : String} (h : name ≠ other)
    (slots : List Slot) :
    contributionsTo other (slots.map fun slot => Slot.contribution (name, slot)) = [] := by
  refine List.filter_eq_nil_iff.mpr fun c hc hto => ?_
  obtain ⟨slot, -, rfl⟩ := List.mem_map.mp hc
  exact h (Value.text.inj (Value.text_beq_iff.mp hto))

theorem contributionsTo_slotsOfFields_cons (name : String) (e : String × FieldFilter)
    (rest : List (String × FieldFilter)) :
    contributionsTo name ((slotsOfFields (e :: rest)).map Slot.contribution) =
      contributionsTo name (e.2.slots.map fun slot => Slot.contribution (e.1, slot)) ++
        contributionsTo name ((slotsOfFields rest).map Slot.contribution) := by
  simp only [slotsOfFields]
  rw [List.flatMap_cons, List.map_append, contributionsTo_append, List.map_map]
  rfl

theorem contributionsTo_slotsOfFields_of_not_mem {name : String}
    {fields : List (String × FieldFilter)} (h : name ∉ fields.map Prod.fst) :
    contributionsTo name ((slotsOfFields fields).map Slot.contribution) = [] := by
  induction fields with
  | nil => rfl
  | cons e rest ih =>
      rw [List.map_cons, List.mem_cons, not_or] at h
      rw [contributionsTo_slotsOfFields_cons, ih h.2, List.append_nil]
      exact contributionsTo_slots_of_ne (Ne.symm h.1) e.2.slots

/-- Each field receives what its own slots hold. -/
theorem contributionsTo_slotsOfFields {fields : List (String × FieldFilter)}
    (hnodup : (fields.map Prod.fst).Nodup) {name : String} {f : FieldFilter}
    (h : (name, f) ∈ fields) :
    contributionsTo name ((slotsOfFields fields).map Slot.contribution) =
      f.slots.map fun slot => Slot.contribution (name, slot) := by
  induction fields with
  | nil => exact nomatch h
  | cons e rest ih =>
      rw [List.map_cons, List.nodup_cons] at hnodup
      rw [contributionsTo_slotsOfFields_cons]
      rcases List.mem_cons.mp h with rfl | h
      · -- this field is the one, and no later one has its name
        rw [contributionsTo_slotsOfFields_of_not_mem hnodup.1, List.append_nil]
        exact contributionsTo_slots_self name f.slots
      · have hne : e.1 ≠ name := by
          intro he
          subst he
          exact hnodup.1 (List.mem_map.mpr ⟨_, h, rfl⟩)
        rw [contributionsTo_slots_of_ne hne, List.nil_append, ih hnodup.2 h]

theorem valuesUnder_slots (f : FieldFilter) (name : String) (op : Operator) :
    valuesUnder op (f.slots.map fun slot => Slot.contribution (name, slot)) =
      if (f.literals op).isEmpty then [] else [(f.literals op).map Prod.snd] := by
  -- of the operators in turn only this one leaves a value
  have hpick : ∀ o : Operator,
      ((if (f.literals o).isEmpty then none else some (Slot.mk o (f.literals o))).bind
        fun slot => if slot.operator = op then some (slot.literals.map Prod.snd) else none) =
      if o = op then
        if (f.literals o).isEmpty then none else some ((f.literals o).map Prod.snd)
      else none := by
    intro o
    split
    · simp
    · rfl
  unfold valuesUnder FieldFilter.slots
  rw [List.filterMap_map, List.filterMap_filterMap]
  refine (List.filterMap_congr fun o _ => hpick o).trans ?_
  rw [Operator.filterMap_all_ite]
  split <;> rfl

namespace CanonicalFilter

variable {q : CanonicalFilter} {slots : List (String × Slot)}

/-- In whatever order the slots come, each operator of each field receives its own values. -/
theorem valuesUnder_contributionsTo (hslots : slots.Perm q.slots) {name : String}
    {f : FieldFilter} (hf : (name, f) ∈ q.fields) (op : Operator) :
    valuesUnder op (contributionsTo name (slots.map Slot.contribution)) =
      if (f.literals op).isEmpty then [] else [(f.literals op).map Prod.snd] := by
  have hperm : (valuesUnder op (contributionsTo name (slots.map Slot.contribution))).Perm
      (valuesUnder op (contributionsTo name (q.slots.map Slot.contribution))) :=
    ((hslots.map Slot.contribution).filter _).filterMap _
  rw [CanonicalFilter.slots, contributionsTo_slotsOfFields q.names_nodup hf, valuesUnder_slots] at hperm
  split at hperm
  next hempty => rw [if_pos hempty, hperm.eq_nil]
  next hne => rw [if_neg hne, List.perm_singleton.mp hperm]

theorem contributionsTo_ne_nil (hslots : slots.Perm q.slots) {name : String} {f : FieldFilter}
    (hf : (name, f) ∈ q.fields) : contributionsTo name (slots.map Slot.contribution) ≠ [] := by
  have hperm : (contributionsTo name (slots.map Slot.contribution)).Perm
      (contributionsTo name (q.slots.map Slot.contribution)) :=
    (hslots.map Slot.contribution).filter _
  intro hnil
  rw [hnil, CanonicalFilter.slots, contributionsTo_slotsOfFields q.names_nodup hf] at hperm
  exact (q.canonical _ hf).slots_ne_nil (by simpa using hperm)

/-- Only the filter's fields receive anything. -/
theorem exists_field_of_contributionsTo (hslots : slots.Perm q.slots) {name : String}
    (h : contributionsTo name (slots.map Slot.contribution) ≠ []) :
    ∃ f, (name, f) ∈ q.fields := by
  obtain ⟨c, hc⟩ := List.exists_mem_of_ne_nil _ h
  obtain ⟨hmem, hname⟩ := name_of_mem_contributionsTo hc
  obtain ⟨e, he, rfl⟩ := List.mem_map.mp hmem
  obtain ⟨f, hf, -⟩ := mem_slots.mp (hslots.subset he)
  obtain rfl : e.1 = name := Value.text.inj hname
  exact ⟨f, hf⟩

end CanonicalFilter

/-! ## What each field gathers -/

/-- Atoms are the same only if they are equal: a word is no number, and integers are written in one
way. -/
theorem Atom.eq_of_same {a b : Atom} (h : (a.value == b.value) = true) : a = b := by
  cases a with
  | word s hs =>
      cases b with
      | word t ht =>
          obtain rfl : t = s := Value.text.inj (Value.text_beq_iff.mp h)
          rfl
      | int n hn => exact nomatch Value.text_beq_iff.mp h
  | int m hm =>
      cases b with
      | word t ht => exact nomatch Value.beq_text_iff.mp h
      | int n hn =>
          have hmn : m = n := by simpa [Atom.value] using h
          subst hmn
          rfl

theorem Atom.distinct_values {atoms : List Atom} (h : atoms.Nodup) :
    Value.distinct (atoms.map Atom.value) = atoms.map Atom.value := by
  refine Value.distinct_of_pairwise (List.pairwise_map.mpr (h.imp fun {a b} hne => ?_))
  rw [Bool.eq_false_iff]
  exact fun he => hne (Atom.eq_of_same he).symm

theorem Atom.isNull_value (a : Atom) : a.value.isNull = false := by
  cases a <;> rfl

theorem Atom.map_snd_literal (atoms : List Atom) :
    (atoms.map Atom.literal).map Prod.snd = atoms.map Atom.value := by
  rw [List.map_map]
  rfl

namespace FieldFilter

/-- The single value under an operator that keeps one. -/
def bound (f : FieldFilter) : BoundOperator → Option Atom
  | .gt => f.gt
  | .gte => f.gte
  | .lte => f.lte
  | .lt => f.lt

theorem literals_bound (f : FieldFilter) (op : BoundOperator) :
    f.literals (.bound op) = (f.bound op).toList.map Atom.literal := by
  cases op <;> rfl

/-- The contributions bring the values of each operator once, and nothing else. -/
def Receives (f : FieldFilter) (cs : List Contribution) : Prop :=
  ∀ op, valuesUnder op cs =
    if (f.literals op).isEmpty then [] else [(f.literals op).map Prod.snd]

variable {f : FieldFilter} {cs : List Contribution}

theorem Receives.collected (h : f.Receives cs) (op : ListOperator) :
    ((Accumulator.gathered cs).collected op).getD [] =
      (f.literals (.collect op)).map Prod.snd := by
  rw [Accumulator.collected_gathered, h]
  split
  next hempty => rw [List.isEmpty_iff.mp hempty]; rfl
  next => simp

theorem Receives.bound (h : f.Receives cs) (op : BoundOperator) :
    (Accumulator.gathered cs).bound op = ((f.bound op).map Atom.value).getD .null := by
  rw [Accumulator.bound_gathered, h, literals_bound]
  cases f.bound op <;> rfl

/-- Single values are combined with nothing, so nothing is reported of them. -/
theorem Receives.takes (h : f.Receives cs) : Accumulator.empty.Takes cs := by
  rw [Accumulator.takes_gathered_iff]
  intro op
  rw [h, literals_bound]
  cases f.bound op <;> rfl

theorem Receives.held? (h : f.Receives cs) (op : Operator) :
    (Accumulator.gathered cs).held? op =
      if (f.literals op).isEmpty then none else some (Slot.mk op (f.literals op)).value := by
  cases op with
  | collect op =>
      have hvalues := h.collected op
      unfold Accumulator.held? Slot.value
      dsimp only
      -- an empty list and a missing one show alike
      cases hl : f.literals (.collect op) with
      | nil =>
          rw [hl] at hvalues
          cases hc : (Accumulator.gathered cs).collected op with
          | none => rfl
          | some values =>
              rw [hc] at hvalues
              obtain rfl : values = [] := hvalues
              rfl
      | cons l rest =>
          rw [hl] at hvalues
          cases hc : (Accumulator.gathered cs).collected op with
          | none => rw [hc] at hvalues; exact nomatch hvalues
          | some values =>
              rw [hc] at hvalues
              obtain rfl : values = (l :: rest).map Prod.snd := hvalues
              rfl
  | bound op =>
      rw [Accumulator.held?_bound, h.bound, literals_bound]
      cases hb : f.bound op with
      | none => rfl
      | some a =>
          rw [Option.map_some, Option.getD_some, a.isNull_value]
          rfl

/-- What is gathered for a field shows the field's filter. -/
theorem Receives.criteria (h : f.Receives cs) : (Accumulator.gathered cs).criteria = f.entries := by
  unfold Accumulator.criteria entries slots
  rw [List.map_filterMap]
  refine List.filterMap_congr fun op _ => ?_
  rw [h.held?]
  split <;> rfl

/-- A list without repetition has nothing to drop, whether it is held or missing. -/
theorem map_distinct_of_nodup {values : Option (List Value)} {atoms : List Atom}
    (hnodup : atoms.Nodup) (hvalues : values.getD [] = (atoms.map Atom.literal).map Prod.snd) :
    values.map Value.distinct = values := by
  cases values with
  | none => rfl
  | some values =>
      rw [Option.getD_some, Atom.map_snd_literal] at hvalues
      rw [hvalues, Option.map_some, Atom.distinct_values hnodup]

/-- No strict bound of a canonical field is void beside the other one of its side. -/
theorem Receives.no_conflict (h : f.Receives cs) (hf : f.Canonical) :
    (Accumulator.gathered cs).lowerConflict = false ∧
      (Accumulator.gathered cs).upperConflict = false := by
  have hgt : (Accumulator.gathered cs).gt = (f.gt.map Atom.value).getD .null := h.bound .gt
  have hgte : (Accumulator.gathered cs).gte = (f.gte.map Atom.value).getD .null := h.bound .gte
  have hlte : (Accumulator.gathered cs).lte = (f.lte.map Atom.value).getD .null := h.bound .lte
  have hlt : (Accumulator.gathered cs).lt = (f.lt.map Atom.value).getD .null := h.bound .lt
  constructor
  · simp only [Accumulator.lowerConflict]
    rw [Accumulator.has_bound, Accumulator.has_bound, h.bound, h.bound, hgt, hgte]
    cases hg : f.gt with
    | none => simp [FieldFilter.bound, hg, Value.isNull]
    | some strict =>
        cases he : f.gte with
        | none => simp [FieldFilter.bound, he, Value.isNull]
        | some loose => simp [hf.lower strict hg loose he]
  · simp only [Accumulator.upperConflict]
    rw [Accumulator.has_bound, Accumulator.has_bound, h.bound, h.bound, hlte, hlt]
    cases hl : f.lte with
    | none => simp [FieldFilter.bound, hl, Value.isNull]
    | some loose =>
        cases ht : f.lt with
        | none => simp [FieldFilter.bound, ht, Value.isNull]
        | some strict => simp [hf.upper loose hl strict ht]

/-- Nothing is reported of a canonical field. -/
theorem Receives.settle_reports (h : f.Receives cs) (hf : f.Canonical) (name : Value) :
    ((Accumulator.gathered cs).settle name).2 = [] := by
  obtain ⟨hlower, hupper⟩ := h.no_conflict hf
  rw [Accumulator.settle_reports_eq_nil_iff]
  refine ⟨?_, hlower, hupper, ?_⟩
  · rw [Accumulator.once_eq_self_iff]
    exact ⟨map_distinct_of_nodup hf.eq_nodup (h.collected .eq),
      map_distinct_of_nodup hf.ne_nodup (h.collected .ne)⟩
  · rw [Bool.eq_false_iff, Ne, Accumulator.isEmpty_iff_criteria_eq_nil, h.criteria]
    intro hnil
    exact hf.slots_ne_nil (List.map_eq_nil_iff.mp hnil)

end FieldFilter

/-! ## Whole requests -/

namespace CanonicalFilter

variable {q : CanonicalFilter} {slots : List (String × Slot)}

/-- The matrix that the slots of a filter make in some order. -/
def matrix (slots : List (String × Slot)) : Matrix :=
  (slots.map Slot.contribution).foldl Matrix.grow []

theorem exists_name_of_mem_contributions :
    ∀ c ∈ slots.map Slot.contribution, ∃ name, c.name = .text name := by
  intro c hc
  obtain ⟨e, -, rfl⟩ := List.mem_map.mp hc
  exact ⟨e.1, rfl⟩

theorem receives (hslots : slots.Perm q.slots) {name : String} {f : FieldFilter}
    (hf : (name, f) ∈ q.fields) :
    f.Receives (contributionsTo name (slots.map Slot.contribution)) :=
  valuesUnder_contributionsTo hslots hf

/-- The matrix has an entry for each field of the filter, which shows the field's filter. -/
theorem mem_matrix (hslots : slots.Perm q.slots) {e : Value × Accumulator}
    (he : e ∈ matrix slots) :
    ∃ name f, (name, f) ∈ q.fields ∧ e.1 = .text name ∧ e.2.criteria = f.entries ∧
      (e.2.settle e.1).2 = [] := by
  obtain ⟨name, hne, rfl⟩ := (Matrix.mem_gathered_iff exists_name_of_mem_contributions).mp he
  obtain ⟨f, hf⟩ := exists_field_of_contributionsTo hslots hne
  have hreceives := receives hslots hf
  exact ⟨name, f, hf, rfl, hreceives.criteria, hreceives.settle_reports (q.canonical _ hf) _⟩

theorem exists_mem_matrix (hslots : slots.Perm q.slots) {name : String} {f : FieldFilter}
    (hf : (name, f) ∈ q.fields) : ∃ a, (.text name, a) ∈ matrix slots ∧ a.criteria = f.entries :=
  ⟨_, (Matrix.mem_gathered_iff exists_name_of_mem_contributions).mpr
    ⟨name, contributionsTo_ne_nil hslots hf, rfl⟩, (receives hslots hf).criteria⟩

/-- Nothing is reported of the slots' values. -/
theorem growReports_eq_nil (hslots : slots.Perm q.slots) :
    Matrix.growReports [] (slots.map Slot.contribution) = [] := by
  rw [Matrix.growReports_eq_nil_iff exists_name_of_mem_contributions]
  intro name
  by_cases hne : contributionsTo name (slots.map Slot.contribution) = []
  · rw [hne]
    trivial
  · obtain ⟨f, hf⟩ := exists_field_of_contributionsTo hslots hne
    exact (receives hslots hf).takes

theorem settle_matrix (hslots : slots.Perm q.slots) :
    Matrix.settle {} [] (matrix slots) = ⟨[], .ok (matrix slots)⟩ := by
  refine Matrix.settle_eq_self fun e he => ?_
  obtain ⟨name, f, hf, hkey, -, hreports⟩ := mem_matrix hslots he
  have hsort : FieldName.isSort e.1 = false := by
    rw [hkey]
    exact isSort_eq_false_of_isReserved (q.isFieldName _ hf).not_reserved
  have hempty := ((Accumulator.settle_reports_eq_nil_iff e.1 e.2).mp hreports).2.2.2
  rw [Matrix.settleField_of_not_sort _ _ hsort, hreports, Accumulator.settle_eq_self hreports,
    hempty]
  rfl

theorem criteria_matrix (hslots : slots.Perm q.slots) :
    (matrix slots).criteria = (matrix slots).map fun e => (e.1, .mapping e.2.criteria) := by
  unfold Matrix.criteria
  rw [← List.filterMap_eq_map]
  refine List.filterMap_congr fun e he => ?_
  obtain ⟨name, f, hf, -, hcriteria, -⟩ := mem_matrix hslots he
  have hne : e.2.criteria.isEmpty = false := by
    rw [hcriteria]
    simpa [FieldFilter.entries] using (q.canonical _ hf).slots_ne_nil
  dsimp only
  rw [hne]
  rfl

/-- The matrix shows the filter, its fields in some order. -/
theorem perm_entries (hslots : slots.Perm q.slots) : (matrix slots).criteria.Perm q.entries := by
  rw [criteria_matrix hslots]
  have hkeys : ((matrix slots).map fun e => (e.1, Value.mapping e.2.criteria)).Nodup := by
    refine List.Nodup.of_map Prod.fst ?_
    rw [List.map_map]
    exact Matrix.nodup_keys_foldl_grow (m := []) exists_name_of_mem_contributions List.nodup_nil
  have hnames : q.entries.Nodup := by
    refine List.Nodup.of_map Prod.fst ?_
    have hmap : q.entries.map Prod.fst = (q.fields.map Prod.fst).map Value.text := by
      simp only [entries]
      rw [List.map_map, List.map_map]
      rfl
    rw [hmap]
    exact q.names_nodup.map fun _ _ => Value.text.inj
  -- no entry is there twice on either side, so membership settles it
  rw [List.perm_ext_iff_of_nodup hkeys hnames]
  intro entry
  simp only [entries]
  rw [List.mem_map, List.mem_map]
  constructor
  · intro hgiven
    obtain ⟨e, he, rfl⟩ := hgiven
    obtain ⟨name, f, hf, hkey, hcriteria, -⟩ := mem_matrix hslots he
    exact ⟨(name, f), hf, by rw [hkey, hcriteria]⟩
  · intro hgiven
    obtain ⟨⟨name, f⟩, hf, rfl⟩ := hgiven
    obtain ⟨a, ha, hcriteria⟩ := exists_mem_matrix hslots hf
    exact ⟨(.text name, a), ha, by rw [hcriteria]⟩

/-- The matrix has no reserved field. -/
theorem find?_criteria_matrix (hslots : slots.Perm q.slots) {field : String}
    (hfield : FieldName.isReserved (.text field) = true) :
    Mapping.find? field (matrix slots).criteria = none := by
  rw [Mapping.find?_eq_head?_allAt, List.head?_eq_none_iff, List.eq_nil_iff_forall_not_mem]
  intro v hv
  have hmem := (perm_entries hslots).subset (Mapping.mem_of_mem_allAt hv)
  obtain ⟨e, he, hentry⟩ := List.mem_map.mp hmem
  obtain rfl : e.1 = field := Value.text.inj (Prod.mk.inj hentry).1
  rw [(q.isFieldName e he).not_reserved] at hfield
  exact nomatch hfield

theorem filterOf_criteria_matrix (hslots : slots.Perm q.slots) :
    filterOf (matrix slots).criteria = (matrix slots).criteria := by
  refine List.filter_eq_self.mpr fun entry hentry => ?_
  obtain ⟨e, he, rfl⟩ := List.mem_map.mp ((perm_entries hslots).subset hentry)
  rw [(q.isFieldName e he).not_reserved]
  rfl

/-- No slot is there twice. -/
theorem nodup_slots (q : CanonicalFilter) : q.slots.Nodup := by
  have hfield : ∀ f : FieldFilter, f.slots.Nodup := by
    intro f
    have hall : Operator.all.Nodup := by decide
    -- a slot tells its operator
    refine hall.filterMap fun op op' slot hop hop' => ?_
    obtain ⟨-, hslot⟩ := Option.mem_ite_none_left.mp hop
    obtain ⟨-, hslot'⟩ := Option.mem_ite_none_left.mp hop'
    obtain rfl := Option.some.inj hslot
    exact (congrArg Slot.operator (Option.some.inj hslot')).symm
  unfold CanonicalFilter.slots slotsOfFields
  rw [List.nodup_flatMap]
  refine ⟨fun e _ => (hfield e.2).map fun _ _ he => (Prod.mk.inj he).2, ?_⟩
  -- slots of two fields differ by the names
  refine (List.pairwise_map.mp q.names_nodup).imp fun {d e} hne => ?_
  intro slot hd he
  obtain ⟨s, -, rfl⟩ := List.mem_map.mp hd
  obtain ⟨s', -, heq⟩ := List.mem_map.mp he
  exact hne (Prod.mk.inj heq).1.symm

theorem isFieldName_of_mem_slots {e : String × Slot} (he : e ∈ q.slots) : IsFieldName e.1 := by
  obtain ⟨f, hf, -⟩ := mem_slots.mp he
  exact q.isFieldName _ hf

theorem spellable_of_mem_slots {e : String × Slot} (he : e ∈ q.slots) :
    Spellable e.2.operator e.2.literals := by
  obtain ⟨f, -, hslot⟩ := mem_slots.mp he
  obtain ⟨hne, hliterals⟩ := FieldFilter.mem_slots.mp hslot
  rw [hliterals]
  exact FieldFilter.spellable hne

/-- The keys of the spelled slots are all different, so they are the keys of a query string. -/
theorem nodup_keys_spelling (q : CanonicalFilter) : (q.spelling.map Prod.fst).Nodup := by
  simp only [spelling]
  rw [List.map_map]
  refine q.nodup_slots.map_on fun d hd e he hkey => ?_
  obtain ⟨hname, hop⟩ := wire_key_inj (isFieldName_of_mem_slots hd) (isFieldName_of_mem_slots he)
    (spellable_of_mem_slots hd) (spellable_of_mem_slots he) hkey
  obtain ⟨f, hf, hslot⟩ := mem_slots.mp hd
  obtain ⟨f', hf', hslot'⟩ := mem_slots.mp he
  rw [hname] at hf
  obtain rfl : f = f' := congrArg Prod.snd (List.inj_on_of_nodup_map q.names_nodup hf hf' rfl)
  obtain ⟨name, op, literals⟩ := d
  obtain ⟨name', op', literals'⟩ := e
  obtain rfl : name = name' := hname
  obtain rfl : op = op' := hop
  rw [show literals = f.literals op from (FieldFilter.mem_slots.mp hslot).2,
    show literals' = f.literals op from (FieldFilter.mem_slots.mp hslot').2]

/-- **Every canonical filter can be asked for.** Its slots, spelled one by one, are the pairs of a
query string; in any order they compile, without a report, to the filter and nothing else. -/
theorem compile_spelling (q : CanonicalFilter) {request : Request}
    (h : request.Perm q.spelling) (fallback : Value) :
    (request.map Prod.fst).Nodup ∧
      ∃ entries, entries.Perm q.entries ∧
        compile {} fallback request [] =
          ⟨[], .ok [(.text FieldName.query, .mapping entries)]⟩ := by
  refine ⟨(h.map Prod.fst).nodup_iff.mpr q.nodup_keys_spelling, ?_⟩
  -- the pairs in their order spell the slots in some order
  obtain ⟨slots, hslots, rfl⟩ := exists_perm_map h
  refine ⟨_, perm_entries hslots, Logged.clean_iff.mp ?_⟩
  have hcontributions := contributions_wire []
    (fun e he => isFieldName_of_mem_slots (hslots.subset he))
    (fun e he => spellable_of_mem_slots (hslots.subset he))
  have hpagination : Pagination.ofQuery (matrix slots).criteria [] false fallback = .ok none :=
    Pagination.ofQuery_eq_none (find?_criteria_matrix hslots rfl)
      (find?_criteria_matrix hslots rfl) (find?_criteria_matrix hslots rfl)
  refine compile_schemaless_clean_iff.mpr
    ⟨_, matrix slots, none, hcontributions, growReports_eq_nil hslots, ?_, hpagination, ?_⟩
  · exact Logged.clean_iff.mpr (settle_matrix hslots)
  · rw [filterOf_criteria_matrix hslots]
    rfl

end CanonicalFilter

/-! ## A filter in a query string -/

theorem red_isWord : IsWord "red" where
  ne_empty := by decide
  strip_eq := rfl
  not_spelled := by decide
  not_null := rfl
  no_mark := by simp

/-- A pattern may hold every mark. -/
theorem tag_isPattern : IsPattern "^<b>|^$" where
  ne_empty := by decide
  strip_eq := rfl
  not_spelled := by decide
  not_null := rfl

/-- A small integer as an atom. -/
def smallInt (n : Int) (h : n.natAbs < 10) : Atom :=
  .int n (h.trans_le (Nat.le_self_pow (by decide) 10))

def priceFilter : FieldFilter where
  ne := [smallInt 0 (by decide)]
  bt := [.word "red" red_isWord, smallInt 7 (by decide)]
  gt := some (smallInt 5 (by decide))
  gte := some (smallInt 3 (by decide))
  lt := some (smallInt (-9) (by decide))

def nameFilter : FieldFilter where
  eq := [.word "red" red_isWord, smallInt 7 (by decide)]
  regex := some ⟨"^<b>|^$", tag_isPattern⟩

theorem priceFilter_canonical : priceFilter.Canonical where
  eq_nodup := List.nodup_nil
  ne_nodup := List.nodup_singleton _
  lower := by
    intro strict hstrict loose hloose
    obtain rfl := Option.some.inj hstrict
    obtain rfl := Option.some.inj hloose
    rfl
  upper := by
    intro loose hloose
    exact nomatch hloose
  slots_ne_nil := List.cons_ne_nil _ _

theorem nameFilter_canonical : nameFilter.Canonical where
  eq_nodup := by simp [nameFilter, smallInt]
  ne_nodup := List.nodup_nil
  lower := by
    intro strict hstrict
    exact nomatch hstrict
  upper := by
    intro loose hloose
    exact nomatch hloose
  slots_ne_nil := List.cons_ne_nil _ _

/-- Two fields, with bounds that no number satisfies: nothing is void by itself. -/
def shopFilter : CanonicalFilter where
  fields := [("price", priceFilter), ("name", nameFilter)]
  names_nodup := by decide
  isFieldName := by
    intro e he
    rcases List.mem_cons.mp he with rfl | he
    · exact ⟨by decide, rfl, by simp, by simp⟩
    · rw [List.mem_singleton.mp he]
      exact ⟨by decide, rfl, by simp, by simp⟩
  canonical := by
    intro e he
    rcases List.mem_cons.mp he with rfl | he
    · exact priceFilter_canonical
    · rw [List.mem_singleton.mp he]
      exact nameFilter_canonical

/-- The slots of the filter, the last one first. -/
def shopRequest : Request :=
  [("name$", .text "^<b>|^$"), ("name", .list [.text "red", .text "7"]), ("price<-9", .text ""),
    ("price>", .text "3"), ("price>5", .text ""), ("price<>red|7", .text ""),
    ("price!", .list [.text "0"])]

theorem compile_shopRequest :
    shopRequest.Perm shopFilter.spelling ∧
    (shopRequest.map Prod.fst).Nodup ∧
    ∃ entries, entries.Perm shopFilter.entries ∧
      compile {} (.int 1) shopRequest [] =
        ⟨[], .ok [(.text FieldName.query, .mapping entries)]⟩ := by
  have hspelling : shopRequest = shopFilter.spelling.reverse := by rfl
  have hperm : shopRequest.Perm shopFilter.spelling := by
    rw [hspelling]
    exact List.reverse_perm _
  exact ⟨hperm, shopFilter.compile_spelling hperm (.int 1)⟩

end QueryFilter
