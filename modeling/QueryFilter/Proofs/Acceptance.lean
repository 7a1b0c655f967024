import QueryFilter.Proofs.Paging
import QueryFilter.Proofs.Schemaless
import QueryFilter.Proofs.Settling
import Mathlib.Logic.Basic

/-!
# QueryFilter.Proofs.Acceptance

What it means that nothing is reported of a request.

Without a schema every pair of such a request is taken, and nothing is dropped after that, with two
exceptions that are meant. A bound whose values are all null is no bound. And a field of the
pagination is taken under every operator, but the pagination asks for its values under equality
only.

* `Reflected`: does a result show a field under an operator?
* `Request.Keeps`: does a request give the field something to show?
* `isNull_of_foldlM_combine?`: the invariant of bounds that can be combined.
* `reflected_iff_keeps`: for the pairs of a request of which nothing is reported the two agree.
-/

namespace QueryFilter

/-! ## Bounds that are null -/

namespace Value

/-- Null has no order with anything. -/
theorem not_isNull_of_compare? {v w : Value} {c : Comparison} (h : compare? v w = some c) :
    v.isNull = false ∧ w.isNull = false := by
  cases v <;> cases w <;> simp_all [compare?, isNull, number?]

theorem not_isNull_of_replaceIf? {wanted : Comparison} {kept new v : Value}
    (h : replaceIf? wanted kept new = some v) : kept.isNull = false ∧ v.isNull = false := by
  obtain ⟨c, hc, rfl⟩ := Option.map_eq_some_iff.mp h
  obtain ⟨hnew, hkept⟩ := not_isNull_of_compare? hc
  refine ⟨hkept, ?_⟩
  split
  · exact hnew
  · exact hkept

theorem isNull_of_extreme? {wanted : Comparison} {first v : Value} {rest : List Value}
    (h : extreme? wanted first rest = some v) : v.isNull = (first.isNull && rest.isEmpty) := by
  unfold extreme? at h
  induction rest generalizing first with
  | nil =>
      obtain rfl := Option.some.inj h
      rw [List.isEmpty_nil, Bool.and_true]
  | cons w rest ih =>
      rw [List.foldlM_cons] at h
      obtain ⟨u, hu, h⟩ := Option.bind_eq_some_iff.mp h
      obtain ⟨hfirst, hu⟩ := not_isNull_of_replaceIf? hu
      rw [ih h, hfirst, hu]
      rfl

theorem not_isNull_of_extreme? {wanted : Comparison} {first second v : Value} {rest : List Value}
    (h : extreme? wanted first (second :: rest) = some v) : first.isNull = false := by
  unfold extreme? at h
  rw [List.foldlM_cons] at h
  obtain ⟨u, hu, -⟩ := Option.bind_eq_some_iff.mp h
  exact (not_isNull_of_replaceIf? hu).1

end Value

/-- Values that can be combined with a bound leave none only where there was none and each of them
is null. -/
theorem BoundOperator.isNull_of_combine? {op : BoundOperator} {bound v : Value}
    {values : List Value} (hne : values ≠ []) (h : op.combine? bound values = some v) :
    v.isNull = (bound.isNull && values.all Value.isNull) := by
  unfold BoundOperator.combine? at h
  cases values with
  | nil => exact absurd rfl hne
  | cons w rest =>
      cases hb : bound.isNull with
      | true =>
          rw [hb] at h
          have hv := Value.isNull_of_extreme? h
          rw [hv, Bool.true_and, List.all_cons]
          -- values that were compared with each other are not null
          cases rest with
          | nil => rfl
          | cons u rest =>
              rw [Value.not_isNull_of_extreme? h]
              rfl
      | false =>
          rw [hb] at h
          have hv := Value.isNull_of_extreme? h
          rw [hv, hb]
          rfl

/-- Bounds that can be combined one after the other leave none only where all of them are null. -/
theorem BoundOperator.isNull_of_foldlM_combine? {op : BoundOperator} {lists : List (List Value)}
    (hne : ∀ values ∈ lists, values ≠ []) {bound v : Value}
    (h : lists.foldlM op.combine? bound = some v) :
    v.isNull = (bound.isNull && lists.flatten.all Value.isNull) := by
  induction lists generalizing bound with
  | nil =>
      obtain rfl := Option.some.inj h
      rw [List.flatten_nil, List.all_nil, Bool.and_true]
  | cons values rest ih =>
      rw [List.foldlM_cons] at h
      obtain ⟨u, hu, h⟩ := Option.bind_eq_some_iff.mp h
      have hfirst := isNull_of_combine? (hne values List.mem_cons_self) hu
      rw [ih (fun vs hvs => hne vs (List.mem_cons_of_mem _ hvs)) h, hfirst, List.flatten_cons,
        List.all_append, Bool.and_assoc]

namespace Accumulator

/-- What a field holds for an operator that was given values: for a bound, one that is not null. -/
theorem isSome_held?_gathered_iff {cs : List Contribution} (htakes : Accumulator.empty.Takes cs)
    {op : Operator} (hne : ∀ values ∈ valuesUnder op cs, values ≠ []) :
    ((gathered cs).held? op).isSome = true ↔
      ∃ v ∈ (valuesUnder op cs).flatten, op.isBound = true → v ≠ .null := by
  cases op with
  | collect op =>
      rw [isSome_held?_collect, collected_gathered]
      simp only [Operator.isBound, Bool.not_eq_true', List.isEmpty_eq_false_iff_exists_mem]
      exact exists_congr fun v => ⟨fun h => ⟨h, (nomatch ·)⟩, And.left⟩
  | bound op =>
      -- the values were all taken, so their fold is what is kept
      obtain ⟨w, hw⟩ := Option.isSome_iff_exists.mp ((takes_gathered_iff cs).mp htakes op)
      have hnull := BoundOperator.isNull_of_foldlM_combine? hne hw
      have hbound : (gathered cs).bound op = w := by
        rw [bound_gathered]
        exact BoundOperator.foldl_keep_of_foldlM hw
      rw [show ((gathered cs).held? (.bound op)).isSome = (gathered cs).has (.bound op) from rfl,
        has_bound, hbound, hnull, Value.isNull_iff.mpr rfl, Bool.true_and, Bool.not_eq_true',
        List.all_eq_false]
      refine exists_congr fun v => and_congr_right fun _ => ?_
      rw [Value.isNull_iff]
      exact ⟨fun h _ => h, fun h => h rfl⟩

end Accumulator

/-! ## Raw values -/

/-- A raw value as a query string has it: a text, or texts of which there is at least one. -/
inductive RawValue : Value → Prop where
  | text (s : String) : RawValue (.text s)
  | list {texts : List String} : texts ≠ [] → RawValue (.list (texts.map .text))

/-- A request whose raw values are as a query string has them. -/
def Request.IsRaw (request : Request) : Prop := ∀ pair ∈ request, RawValue pair.2

/-- A token of a raw value carries null or a raw value. -/
theorem RawValue.token {v : Value} (h : RawValue v) (key : String) :
    (Token.read key v).value = .null ∨ RawValue (Token.read key v).value := by
  rcases Token.value_read key v with hv | hv | ⟨s, hv⟩
  · exact .inl hv
  · rw [hv]
    exact .inr h
  · rw [hv]
    exact .inr (.text s)

/-- The pieces of a raw value: there is one at least, and none is null. -/
theorem RawValue.pieces {v : Value} (h : RawValue v) (op : Operator) :
    rawPieces op v ≠ [] ∧ ∀ piece ∈ rawPieces op v, piece ≠ .null := by
  have hcut : ∀ s, pipePieces s ≠ [] := fun s => Text.splitAt_ne_nil _ _
  cases h with
  | text s =>
      unfold rawPieces
      dsimp only
      split
      · simp
      · simp [hcut]
  | @list texts hne =>
      unfold rawPieces
      dsimp only
      constructor
      · -- some text of the list has a piece
        obtain ⟨s, hs⟩ := List.exists_mem_of_ne_nil texts hne
        intro hnil
        have hs' := List.flatMap_eq_nil_iff.mp hnil (.text s) (List.mem_map_of_mem hs)
        simp [elementPieces, hcut] at hs'
      · intro piece hpiece
        obtain ⟨v, hv, hpiece⟩ := List.mem_flatMap.mp hpiece
        obtain ⟨s, -, rfl⟩ := List.mem_map.mp hv
        obtain ⟨cs, -, rfl⟩ := List.mem_map.mp hpiece
        exact nofun

/-- A conversion keeps null and makes none. -/
theorem isNull_of_convertPiece {v w : Value} (h : convertPiece v = .ok w) :
    w.isNull = v.isNull := by
  cases v with
  | text s =>
      rw [convertPiece_text] at h
      cases hread : readNumber s with
      | error fault =>
          rw [hread] at h
          cases h
      | ok n? =>
          rw [hread] at h
          obtain rfl := Except.ok.inj h
          cases n? with
          | none => rfl
          | some n => cases n <;> rfl
  | _ =>
      obtain rfl := Except.ok.inj h
      rfl

theorem map_isNull_of_mapM {pieces values : List Value}
    (h : pieces.mapM convertPiece = .ok values) :
    values.map Value.isNull = pieces.map Value.isNull := by
  induction pieces generalizing values with
  | nil =>
      obtain rfl := Except.ok.inj h
      rfl
  | cons v rest ih =>
      rw [List.mapM_cons] at h
      obtain ⟨w, hw, h⟩ := Except.bind_eq_ok h
      obtain ⟨ws, hws, h⟩ := Except.bind_eq_ok h
      obtain rfl := Except.ok.inj h
      rw [List.map_cons, List.map_cons, isNull_of_convertPiece hw, ih hws]

/-- Does a request give a field something to hold under an operator? Null is something to list, but
no bound. -/
def Request.Gives (request : Request) (name : String) (op : Operator) : Prop :=
  ∃ pair ∈ request, (Token.read pair.1 pair.2).name = name ∧
    (Token.read pair.1 pair.2).operator = op ∧
    (op.isBound = true → (Token.read pair.1 pair.2).value ≠ .null)

/-- A request gives something when one of its converted pieces is something to hold. -/
theorem Request.gives_iff {request : Request} (hraw : request.IsRaw) {name : String}
    {op : Operator} {values : List Value}
    (h : (request.pieces name op).mapM convertPiece = .ok values) :
    request.Gives name op ↔ ∃ v ∈ values, op.isBound = true → v ≠ .null := by
  have hpieces : (∃ v ∈ values, op.isBound = true → v ≠ .null) ↔
      ∃ v ∈ request.pieces name op, op.isBound = true → v ≠ .null := by
    have hmap := map_isNull_of_mapM h
    have hsame : ∀ l : List Value, (∃ v ∈ l, op.isBound = true → v ≠ .null) ↔
        ∃ b ∈ l.map Value.isNull, op.isBound = true → b = false := by
      intro l
      simp only [List.mem_map, exists_exists_and_eq_and]
      refine exists_congr fun v => and_congr_right fun _ => imp_congr_right fun _ => ?_
      rw [Ne, ← Value.isNull_iff, Bool.not_eq_true]
    rw [hsame, hsame, hmap]
  rw [hpieces]
  simp only [Request.Gives, Request.mem_pieces]
  constructor
  · intro hgiven
    obtain ⟨pair, hpair, hname, hop, hnull⟩ := hgiven
    rcases (hraw pair hpair).token pair.1 with hvalue | hvalue
    · -- a null is a piece of its own
      refine ⟨.null, ⟨pair, hpair, hname, hop, ?_⟩, fun hb => absurd hvalue (hnull hb)⟩
      rw [hvalue]
      exact List.mem_singleton_self _
    · obtain ⟨hne, hnonnull⟩ := hvalue.pieces op
      obtain ⟨v, hv⟩ := List.exists_mem_of_ne_nil _ hne
      exact ⟨v, ⟨pair, hpair, hname, hop, hv⟩, fun _ => hnonnull v hv⟩
  · intro hgiven
    obtain ⟨v, ⟨pair, hpair, hname, hop, hv⟩, hnull⟩ := hgiven
    refine ⟨pair, hpair, hname, hop, fun hb hvalue => hnull hb ?_⟩
    rw [hvalue] at hv
    exact List.mem_singleton.mp hv

/-! ## Accepted pairs -/

theorem Schema.name_of_contribution?_clean {cfg : Config} {pair : String × Value}
    {c : Option Contribution} (h : (({} : Schema).contribution? cfg pair).Clean c) :
    (Token.read pair.1 pair.2).name ≠ "" := by
  intro hname
  rw [Schema.contribution?_schemaless, if_pos hname] at h
  exact nomatch h.1

/-- Each pair of a request of which nothing is reported has a name. -/
theorem Schema.name_of_contributions_clean {cfg : Config} {request : Request}
    {cs : List Contribution} (h : (({} : Schema).contributions cfg request).Clean cs)
    {pair : String × Value} (hpair : pair ∈ request) : (Token.read pair.1 pair.2).name ≠ "" := by
  induction request generalizing cs with
  | nil => exact nomatch hpair
  | cons first rest ih =>
      obtain ⟨c, hc, h⟩ := Logged.clean_bind_iff.mp h
      obtain ⟨more, hmore, -⟩ := Logged.clean_bind_iff.mp h
      rcases List.mem_cons.mp hpair with rfl | hpair
      · exact name_of_contribution?_clean hc
      · exact ih hmore hpair

/-- What a field holds after a run of which nothing is reported. -/
theorem isSome_held?_gathered_iff_gives {cfg : Config} {request : Request}
    (hraw : request.IsRaw) {cs : List Contribution}
    (hcs : (({} : Schema).contributions cfg request).result = .ok cs)
    (hgrow : Matrix.growReports [] cs = []) {name : String} (hname : name ≠ "") (op : Operator) :
    ((Accumulator.gathered (contributionsTo name cs)).held? op).isSome = true ↔
      request.Gives name op := by
  have htexts : ∀ c ∈ cs, ∃ name, c.name = .text name :=
    fun _ hc => Schema.exists_text_of_mem_contributions hcs hc
  have htakes : Accumulator.empty.Takes (contributionsTo name cs) :=
    (Matrix.growReports_eq_nil_iff htexts []).mp hgrow name
  rw [Accumulator.isSome_held?_gathered_iff htakes fun _ => ne_nil_of_mem_valuesUnder hcs,
    Request.gives_iff hraw (mapM_pieces hname hcs op)]

/-! ## Settling without a report -/

namespace Matrix

/-- Nothing is reported of a matrix only if nothing is reported of any field. -/
theorem settleField_clean_of_mem {s : Schema} {cfg : Config} {m settled : Matrix}
    (h : (m.settle s cfg).Clean settled) {e : Value × Accumulator} (he : e ∈ m) :
    ∃ kept, (settleField s cfg e.1 e.2).Clean kept := by
  induction m generalizing settled with
  | nil => exact nomatch he
  | cons first rest ih =>
      rw [settle] at h
      obtain ⟨kept, hkept, h⟩ := Logged.clean_bind_iff.mp h
      rcases List.mem_cons.mp he with rfl | he
      · exact ⟨kept, hkept⟩
      · cases kept with
        | none => exact ih h he
        | some a =>
            obtain ⟨more, hmore, -⟩ := Logged.clean_bind_iff.mp h
            exact ih hmore he

/-- A field of which nothing is reported still holds what it held for every operator; of the sort
this is true where it is asked for by equality. -/
theorem settleField_clean {s : Schema} {cfg : Config} {name : Value} {a : Accumulator}
    {kept : Option Accumulator} (h : (settleField s cfg name a).Clean kept) :
    ∃ b, kept = some b ∧ (b.held? .eq).isSome = (a.held? .eq).isSome ∧
      (FieldName.isSort name = false → b = a) := by
  unfold settleField at h
  dsimp only at h
  split at h
  next hsort =>
    -- the sort is read again, and it is reported when nothing is left of it
    rw [Bool.and_eq_true, Bool.not_eq_true'] at hsort
    unfold settleSort at h
    obtain ⟨values, -, h⟩ := Logged.clean_bind_iff.mp h
    cases values with
    | nil => exact nomatch (Logged.clean_report_iff.mp h).1
    | cons v values =>
        obtain rfl := (Logged.clean_mk_iff.mp h).2
        refine ⟨_, rfl, ?_, fun hne => by rw [hne] at hsort; exact nomatch hsort.1⟩
        have hheld := Accumulator.isSome_held?_collect a .eq
        change (a.held? .eq).isSome = !((a.eq.getD []).isEmpty) at hheld
        rw [hheld, hsort.2]
        rfl
  next =>
    obtain ⟨hreports, hkept⟩ := Logged.clean_report_iff.mp h
    have hself := Accumulator.settle_eq_self hreports
    have hempty := ((Accumulator.settle_reports_eq_nil_iff name a).mp hreports).2.2.2
    rw [hself, hempty] at hkept
    exact ⟨a, hkept.symm, rfl, fun _ => rfl⟩

/-- A field that is there keeps its place when nothing is reported. -/
theorem allAt_settle_of_clean {s : Schema} {cfg : Config} {name : String} {m settled : Matrix}
    (h : (m.settle s cfg).Clean settled) {a : Accumulator} (ha : Mapping.allAt name m = [a]) :
    ∃ b, Mapping.allAt name settled = [b] ∧ (b.held? .eq).isSome = (a.held? .eq).isSome ∧
      (FieldName.isSort (.text name) = false → b = a) := by
  have hmem : (Value.text name, a) ∈ m :=
    Mapping.mem_of_mem_allAt (ha ▸ List.mem_singleton_self a)
  obtain ⟨kept, hkept⟩ := settleField_clean_of_mem h hmem
  obtain ⟨b, rfl, hheld, hself⟩ := settleField_clean hkept
  obtain ⟨all, hall, hsettled⟩ := allAt_settle_singleton h.2 ha
  obtain rfl := Except.ok.inj (hkept.2.symm.trans hall)
  exact ⟨b, hsettled, hheld, hself⟩

/-- What a settled query holds for a field, when nothing is reported. -/
theorem find?_settled_of_clean {cs : List Contribution} {settled : Matrix}
    (h : (settle {} [] (cs.foldl grow [])).Clean settled) (name : String) :
    ∃ b : Accumulator, Mapping.find? name settled.criteria = b.criteria? ∧
      (b.held? .eq).isSome = ((Accumulator.gathered (contributionsTo name cs)).held? .eq).isSome ∧
      (FieldName.isSort (.text name) = false →
        b = Accumulator.gathered (contributionsTo name cs)) := by
  have hgathered := allAt_gathered name cs
  split at hgathered
  next hnone =>
    -- no pair is for the field, so it is not there
    rw [List.isEmpty_iff.mp hnone]
    refine ⟨.empty, ?_, rfl, fun _ => rfl⟩
    rw [Mapping.find?_eq_head?_allAt, allAt_criteria, allAt_settle_of_nil h.2 hgathered]
    rfl
  next =>
    obtain ⟨b, hb, hheld, hself⟩ := allAt_settle_of_clean h hgathered
    refine ⟨b, ?_, hheld, hself⟩
    rw [Mapping.find?_eq_head?_allAt, allAt_criteria_of_allAt (a := some b) hb]
    exact Option.head?_toList

end Matrix

/-! ## The pagination -/

theorem FieldName.eq_of_isReserved {name : String} (h : isReserved (.text name) = true) :
    name = sort ∨ name = pageNo ∨ name = pageSize := by
  simpa only [isReserved, isSort, isPageKey, Bool.or_eq_true, Value.text_beq_iff,
    Value.text.injEq] using h

/-- Which of the reserved fields the pagination of a result shows. -/
theorem isSome_pagination {cs : List Contribution} {settled : Matrix} {fallback : Value}
    {p : Option Pagination} (hsettled : (Matrix.settle {} [] (cs.foldl Matrix.grow [])).Clean settled)
    (hp : Pagination.ofQuery settled.criteria [] false fallback = .ok p) {name : String}
    (hname : FieldName.isReserved (.text name) = true) :
    (p.bind fun p => Mapping.find? name p.toMapping).isSome =
      ((Accumulator.gathered (contributionsTo name cs)).held? .eq).isSome := by
  have hheld : ∀ field, ∃ v, equalTo settled.criteria field = .ok v ∧
      v.isTruthy = ((Accumulator.gathered (contributionsTo field cs)).held? .eq).isSome := by
    intro field
    obtain ⟨b, hb, hheld, -⟩ := Matrix.find?_settled_of_clean hsettled field
    obtain ⟨v, hv, htruthy⟩ := equalTo_of_find? hb
    exact ⟨v, hv, htruthy.trans hheld⟩
  -- a pagination asks for its three fields
  obtain ⟨no, hno, htno⟩ := hheld FieldName.pageNo
  obtain ⟨size, hsize, htsize⟩ := hheld FieldName.pageSize
  obtain ⟨sort, hsort, htsort⟩ := hheld FieldName.sort
  obtain ⟨hpno, hpsize, hpsort⟩ := Pagination.isSome_parts hno hsize hsort hp
  cases p with
  | none =>
      rcases FieldName.eq_of_isReserved hname with rfl | rfl | rfl
      · exact hpsort.trans htsort
      · exact hpno.trans htno
      · exact hpsize.trans htsize
  | some p =>
      obtain ⟨hmno, hmsize, hmsort⟩ := p.isSome_find?_toMapping
      rcases FieldName.eq_of_isReserved hname with rfl | rfl | rfl
      · exact (hmsort.trans hpsort).trans htsort
      · exact (hmno.trans hpno).trans htno
      · exact (hmsize.trans hpsize).trans htsize

/-! ## Whole requests -/

/-- Does a result show a field under an operator? A field of the pagination is shown by the
pagination, which names no operators. -/
def Reflected (result : Mapping Value) (name : String) (op : Operator) : Prop :=
  if FieldName.isReserved (.text name) then
    ∃ fields, Mapping.find? FieldName.pagination result = some (.mapping fields) ∧
      (Mapping.find? name fields).isSome
  else
    ∃ filter slots, Filters result filter ∧ Mapping.find? name filter = some (.mapping slots) ∧
      (Mapping.find? op.name slots).isSome

/-- Does a request give a field something that its result has to show? The pagination asks for its
fields under equality only. -/
def Request.Keeps (request : Request) (name : String) (op : Operator) : Prop :=
  request.Gives name (if FieldName.isReserved (.text name) then .eq else op)

/-- **Strict acceptance.** Where nothing is reported of a request, each of its pairs has a name, and
the result shows the pair's field under the pair's operator exactly when the request gives the field
something to show there: a pair is passed over only if all it gives is a null for a bound, or a
value for the pagination under another operator than equality. -/
theorem reflected_iff_keeps {fallback : Value} {request : Request} (hraw : request.IsRaw)
    {result : Mapping Value} (h : (compile {} fallback request []).Clean result) :
    ∀ pair ∈ request, (Token.read pair.1 pair.2).name ≠ "" ∧
      (Reflected result (Token.read pair.1 pair.2).name (Token.read pair.1 pair.2).operator ↔
        request.Keeps (Token.read pair.1 pair.2).name (Token.read pair.1 pair.2).operator) := by
  obtain ⟨cs, settled, p, hcs, hgrow, hsettled, hp, rfl⟩ := compile_schemaless_clean_iff.mp h
  intro pair hpair
  have hname := Schema.name_of_contributions_clean hcs hpair
  refine ⟨hname, ?_⟩
  -- nothing but the name and the operator of the pair matters from here on
  generalize (Token.read pair.1 pair.2).name = name at hname ⊢
  generalize (Token.read pair.1 pair.2).operator = op
  have hgives := isSome_held?_gathered_iff_gives hraw hcs.2 hgrow hname
  unfold Reflected Request.Keeps
  rw [← hgives]
  split
  next hreserved =>
    rw [← isSome_pagination hsettled hp hreserved, find?_pagination_assemble]
    cases p <;> simp
  next hreserved =>
    rw [Bool.not_eq_true] at hreserved
    -- the filter shows what was gathered for the field, for nothing was dropped
    obtain ⟨b, hb, -, hself⟩ := Matrix.find?_settled_of_clean hsettled name
    obtain rfl := hself (isSort_eq_false_of_isReserved hreserved)
    rw [← Accumulator.find?_criteria]
    constructor
    · intro hgiven
      obtain ⟨filter, slots, hfilter, hslots, hop⟩ := hgiven
      obtain rfl : filterOf settled.criteria = filter := by
        have := (filters_assemble rfl p).symm.trans hfilter
        simpa using this
      rw [find?_filterOf hreserved, hb, Accumulator.criteria?] at hslots
      split at hslots
      next => cases hslots
      next =>
        obtain rfl := Value.mapping.inj (Option.some.inj hslots)
        exact hop
    · intro hop
      refine ⟨_, _, filters_assemble rfl p, ?_, hop⟩
      rw [find?_filterOf hreserved, hb, Accumulator.criteria?]
      split
      next hempty =>
        rw [List.isEmpty_iff.mp hempty] at hop
        cases hop
      next => rfl

/-- A list, bounds of which one is null, a page and a sort. -/
def mixedRequest : Request :=
  [("x", .list [.text "5", .text "a"]), ("x>", .text "null"), ("x<9", .text ""),
    ("page_no", .text "2"), ("sort", .text "name|-1")]

def mixedResult : Mapping Value :=
  [(.text "query", .mapping
      [(.text "x", .mapping [(.text "eq", .list [.int 5, .text "a"]), (.text "lt", .int 9)])]),
    (.text "pagination", .mapping
      [(.text "page_no", .int 2), (.text "sort", .mapping [(.text "name", .int (-1))]),
        (.text "sort_default", .bool false)])]

theorem mixed_reflected_iff_keeps :
    mixedRequest.IsRaw ∧ (compile {} (.int 1) mixedRequest []).Clean mixedResult ∧
    ∀ pair ∈ mixedRequest, (Token.read pair.1 pair.2).name ≠ "" ∧
      (Reflected mixedResult (Token.read pair.1 pair.2).name (Token.read pair.1 pair.2).operator ↔
        mixedRequest.Keeps (Token.read pair.1 pair.2).name
          (Token.read pair.1 pair.2).operator) := by
  have hraw : mixedRequest.IsRaw := by
    have hlist : RawValue (.list [.text "5", .text "a"]) :=
      .list (List.cons_ne_nil "5" ["a"])
    simp only [Request.IsRaw, mixedRequest, List.forall_mem_cons]
    exact ⟨hlist, .text _, .text _, .text _, .text _, List.forall_mem_nil _⟩
  have hclean : (compile {} (.int 1) mixedRequest []).Clean mixedResult := by
    let cs : List Contribution :=
      [⟨.text "x", .eq, [.int 5, .text "a"]⟩, ⟨.text "x", .gte, [.null]⟩, ⟨.text "x", .lt, [.int 9]⟩,
        ⟨.text "page_no", .eq, [.int 2]⟩, ⟨.text "sort", .eq, [.text "name", .int (-1)]⟩]
    let settled : Matrix :=
      [(.text "x", { eq := some [.int 5, .text "a"], lt := .int 9 }),
        (.text "page_no", { eq := some [.int 2] }),
        (.text "sort", { eq := some [.text "name", .int (-1)] })]
    exact compile_schemaless_clean_iff.mpr
      ⟨cs, settled, _, ⟨rfl, rfl⟩, rfl, ⟨rfl, rfl⟩, rfl, rfl⟩
  exact ⟨hraw, hclean, reflected_iff_keeps hraw hclean⟩

/-- A bound that is null beside a value. -/
def nullBoundRequest : Request := [("x", .text "5"), ("x>", .text "null")]

def nullBoundResult : Mapping Value :=
  [(.text "query", .mapping [(.text "x", .mapping [(.text "eq", .list [.int 5])])])]

/-- A page that is asked for by a bound. -/
def pageBoundRequest : Request := [("page_no>", .text "5")]

def pageBoundResult : Mapping Value := [(.text "query", .mapping [])]

/-- Both exceptions occur: nothing is reported, and yet the result does not show a pair. -/
theorem not_reflected_of_clean :
    (nullBoundRequest.IsRaw ∧ (compile {} (.int 1) nullBoundRequest []).Clean nullBoundResult ∧
      ∃ pair ∈ nullBoundRequest, ¬Reflected nullBoundResult (Token.read pair.1 pair.2).name
        (Token.read pair.1 pair.2).operator) ∧
    (pageBoundRequest.IsRaw ∧ (compile {} (.int 1) pageBoundRequest []).Clean pageBoundResult ∧
      ∃ pair ∈ pageBoundRequest, ¬Reflected pageBoundResult (Token.read pair.1 pair.2).name
        (Token.read pair.1 pair.2).operator) := by
  constructor
  · refine ⟨?_, ⟨rfl, rfl⟩, ("x>", .text "null"),
      List.mem_cons_of_mem _ List.mem_cons_self, ?_⟩
    · simp only [Request.IsRaw, nullBoundRequest, List.forall_mem_cons]
      exact ⟨.text _, .text _, List.forall_mem_nil _⟩
    · show ¬Reflected nullBoundResult "x" .gte
      rw [Reflected, if_neg (by decide)]
      intro hgiven
      obtain ⟨filter, slots, hfilter, hslots, hop⟩ := hgiven
      obtain rfl := Value.mapping.inj (Option.some.inj hfilter)
      obtain rfl := Value.mapping.inj (Option.some.inj hslots)
      cases hop
  · refine ⟨?_, ⟨rfl, rfl⟩, ("page_no>", .text "5"), List.mem_cons_self, ?_⟩
    · simp only [Request.IsRaw, pageBoundRequest, List.forall_mem_cons]
      exact ⟨.text _, List.forall_mem_nil _⟩
    · show ¬Reflected pageBoundResult "page_no" .gte
      rw [Reflected, if_pos (by decide)]
      intro hgiven
      obtain ⟨fields, hfields, -⟩ := hgiven
      cases hfields

end QueryFilter
