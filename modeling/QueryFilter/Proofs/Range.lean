import QueryFilter.Proofs.Bounds
import QueryFilter.Proofs.Schemaless
import QueryFilter.Proofs.Settling
import QueryFilter.Proofs.Spelling
import Mathlib.Order.Bounds.Defs

/-!
# QueryFilter.Proofs.Range

What range filters mean. A request may bound a field many times, in several spellings; the filter
keeps at most four bounds. Where all the bounds are integers, an integer passes the kept bounds when
it passes the given ones, with one exception on each side: where the tightest strict bound and the
tightest other bound are the same, that integer passes although the strict bound excludes it.

* `Request.bounds`: the integers that a request gives under an operator.
* `Admits`: does an integer pass the bounds that a filter holds?
* `BoundOperator.Kept`: what gathering keeps of integers, the tightest of them.
* `range_admits_iff`: the statement above, for every request.
-/

namespace QueryFilter

/-! ## Integers among the pieces -/

/-- The piece is an integer literal. -/
inductive IntegerPiece : Value → Int → Prop where
  | int (n : Int) : IntegerPiece (.int n) n
  | text {s : String} {n : Int} : SpellsInteger s n → IntegerPiece (.text s) n

theorem convertPiece_eq_of_integerPiece {v w : Value} {n : Int} (h : IntegerPiece v n)
    (hw : convertPiece v = .ok w) : w = .int n := by
  cases h with
  | int n => exact (Except.ok.inj hw).symm
  | @text s n hs =>
      rw [convertPiece_text] at hw
      cases hread : readNumber s with
      | error fault =>
          rw [hread] at hw
          cases hw
      | ok n? =>
          obtain rfl := readNumber_eq_of_spellsInteger hs hread
          rw [hread] at hw
          exact (Except.ok.inj hw).symm

/-- Integer literals that are converted at all become integers, and no others do. -/
theorem exists_ints_of_mapM {pieces values : List Value} (h : pieces.mapM convertPiece = .ok values)
    (hpieces : ∀ v ∈ pieces, ∃ n, IntegerPiece v n) :
    ∃ ints : List Int, values = ints.map .int ∧
      ∀ n, n ∈ ints ↔ ∃ v ∈ pieces, IntegerPiece v n := by
  induction pieces generalizing values with
  | nil =>
      obtain rfl := Except.ok.inj h
      exact ⟨[], rfl, by simp⟩
  | cons v rest ih =>
      rw [List.mapM_cons] at h
      obtain ⟨w, hw, h⟩ := Except.bind_eq_ok h
      obtain ⟨ws, hws, h⟩ := Except.bind_eq_ok h
      obtain rfl := Except.ok.inj h
      obtain ⟨n, hn⟩ := hpieces v List.mem_cons_self
      obtain rfl := convertPiece_eq_of_integerPiece hn hw
      obtain ⟨ints, rfl, hints⟩ := ih hws fun u hu => hpieces u (List.mem_cons_of_mem _ hu)
      refine ⟨n :: ints, rfl, fun m => ?_⟩
      -- a literal is worth one integer
      have hvm : IntegerPiece v m ↔ m = n := by
        constructor
        · intro hm
          exact Value.int.inj (convertPiece_eq_of_integerPiece hm hw).symm
        · intro heq
          subst heq
          exact hn
      simp [hints, hvm]

/-- The integers that a request gives for a field under an operator. -/
def Request.bounds (request : Request) (name : String) (op : BoundOperator) : Set Int :=
  {n | ∃ v ∈ request.pieces name (.bound op), IntegerPiece v n}

/-! ## What is kept of integers -/

theorem Value.compare?_int (m n : Int) :
    Value.compare? (.int m) (.int n) = some (.ofInts m n) := rfl

theorem Value.notAbove_int (m n : Int) : Value.notAbove (.int m) (.int n) = true ↔ m ≤ n := by
  simp only [Value.notAbove]
  rw [Value.compare?_int, Comparison.ofInts]
  rcases Int.lt_trichotomy m n with h | h | h
  · simp [h]
    omega
  · simp [h]
  · rw [if_neg (by omega), if_neg (by omega)]
    simp
    omega

namespace BoundOperator

/-- What an operator keeps of integers: the tightest of them, and null if there are none. -/
inductive Kept (op : BoundOperator) : Value → List Int → Prop where
  | none : Kept op .null []
  | tightest {m : Int} {ints : List Int} :
      m ∈ ints → (∀ n ∈ ints, op.Tightens m n) → Kept op (.int m) ints

/-- What is kept of values that are all integers. -/
theorem Retains.kept {op : BoundOperator} {v : Value} {ints : List Int}
    (h : op.Retains v (ints.map .int)) : op.Kept v ints := by
  generalize hvalues : ints.map Value.int = values at h
  cases h with
  | none =>
      obtain rfl := List.map_eq_nil_iff.mp hvalues
      exact .none
  | @tightest _ n _ h =>
      subst hvalues
      obtain ⟨m, hm, rfl⟩ := List.mem_map.mp h.mem
      obtain rfl := Option.some.inj h.worth
      exact .tightest hm fun k hk => h.tightens _ (List.mem_map_of_mem hk) k rfl

/-- Gathering keeps the tightest of the integers that were given, however they came. -/
theorem kept_foldl {op : BoundOperator} {lists : List (List Value)} {ints : List Int}
    (hlists : lists.flatten = ints.map .int) (hne : ∀ values ∈ lists, values ≠ []) :
    op.Kept (lists.foldl op.keep .null) ints := by
  obtain ⟨v, hv, h⟩ := Retains.none.exists_foldlM_combine? hne fun w hw => by
    rw [hlists] at hw
    obtain ⟨n, -, rfl⟩ := List.mem_map.mp hw
    exact ⟨n, rfl⟩
  rw [foldl_keep_of_foldlM hv]
  rw [List.nil_append, hlists] at h
  exact h.kept

/-! ## What bounds let pass -/

/-- Does an integer pass a bound? -/
def Holds : BoundOperator → Int → Int → Prop
  | .gt, m, n => m < n
  | .gte, m, n => m ≤ n
  | .lte, m, n => n ≤ m
  | .lt, m, n => n < m

/-- How a value may lie to a bound that it passes. -/
def allows : BoundOperator → Comparison → Bool
  | .gt, c => c == .greater
  | .gte, c => c == .greater || c == .same
  | .lte, c => c == .less || c == .same
  | .lt, c => c == .less

/-- Does a value pass a bound of any type? Only if the two have a common order. -/
def passes (op : BoundOperator) (bound v : Value) : Bool :=
  (v.compare? bound).any op.allows

theorem passes_int (op : BoundOperator) (m n : Int) :
    op.passes (.int m) (.int n) = true ↔ op.Holds m n := by
  simp only [passes]
  rw [Value.compare?_int, Comparison.ofInts]
  rcases Int.lt_trichotomy n m with h | h | h
  · rw [if_pos h]
    cases op <;> simp [allows, Holds] <;> omega
  · rw [if_neg (by omega), if_pos h]
    cases op <;> simp [allows, Holds] <;> omega
  · rw [if_neg (by omega), if_neg (by omega)]
    cases op <;> simp [allows, Holds] <;> omega

/-- Does a bound that may be missing let an integer pass? -/
def Lets (op : BoundOperator) (bound : Value) (n : Int) : Prop :=
  bound.isNull = false → op.passes bound (.int n) = true

/-- What passes a bound passes every bound that it is tighter than. -/
theorem Holds.of_tightens {op : BoundOperator} {k m n : Int} (h : op.Holds m n)
    (hmk : op.Tightens m k) : op.Holds k n := by
  unfold Tightens at hmk
  cases op <;> simp only [keepsGreatest, if_true, Bool.false_eq_true, if_false] at hmk <;>
    simp only [Holds] at * <;> omega

/-- What passes the kept bound passes all the bounds it was kept of. -/
theorem Kept.lets_iff {op : BoundOperator} {bound : Value} {ints : List Int}
    (h : op.Kept bound ints) (n : Int) : op.Lets bound n ↔ ∀ m ∈ ints, op.Holds m n := by
  cases h with
  | none => simp [Lets, Value.isNull]
  | @tightest m ints hmem htight =>
      rw [Lets, passes_int]
      constructor
      · intro h k hk
        exact (h rfl).of_tightens (htight k hk)
      · intro h _
        exact h m hmem

/-- The operator of the same side that the bound itself passes. -/
def loosened : BoundOperator → BoundOperator
  | .gt => .gte
  | .lt => .lte
  | op => op

theorem holds_loosened_iff (op : BoundOperator) (m n : Int) :
    op.loosened.Holds m n ↔ op.Tightens n m := by
  cases op <;> simp [loosened, Holds, Tightens, keepsGreatest]

theorem tightens_loosened_iff (op : BoundOperator) (m n : Int) :
    op.loosened.Tightens m n ↔ op.Tightens m n := by
  cases op <;> simp [loosened, Tightens, keepsGreatest]

/-- A strict bound excludes what is on its far side and the bound itself. -/
theorem holds_iff_of_strict {op : BoundOperator} (h : op.loosened ≠ op) (m n : Int) :
    op.Holds m n ↔ ¬op.Tightens m n := by
  cases op with
  | gt => simp [Holds, Tightens, keepsGreatest]
  | lt => simp [Holds, Tightens, keepsGreatest]
  | gte => exact absurd rfl h
  | lte => exact absurd rfl h

theorem Tightens.antisymm {op : BoundOperator} {m n : Int} (h : op.Tightens m n)
    (h' : op.Tightens n m) : m = n := by
  unfold Tightens at *
  split at h
  next hg =>
    rw [if_pos hg] at h'
    omega
  next hg =>
    rw [if_neg hg] at h'
    omega

/-- An integer that is one of several bounds and the tightest of them. -/
def IsTightest (op : BoundOperator) (ints : List Int) (n : Int) : Prop :=
  n ∈ ints ∧ ∀ m ∈ ints, op.Tightens n m

/-- One side of a range. The strict bound is dropped where the other one is at least as tight. An
integer passes what is left when it passes all bounds of the side, or when it is the tightest bound
of both kinds. -/
theorem lets_side_iff (op : BoundOperator) (hop : op.loosened ≠ op) {strict loose : Value}
    {xs ys : List Int} (hstrict : op.Kept strict xs) (hloose : op.loosened.Kept loose ys)
    {dropped : Bool}
    (hdropped : dropped = true ↔ ∃ x y, strict = .int x ∧ loose = .int y ∧ op.Tightens y x)
    (n : Int) :
    op.Lets (if dropped then .null else strict) n ∧ op.loosened.Lets loose n ↔
      (∀ m ∈ xs, op.Holds m n) ∧ (∀ m ∈ ys, op.loosened.Holds m n) ∨
        op.IsTightest xs n ∧ op.IsTightest ys n := by
  rw [hloose.lets_iff]
  cases hd : dropped with
  | false =>
      rw [if_neg Bool.false_ne_true, hstrict.lets_iff]
      refine ⟨Or.inl, fun h => h.resolve_right ?_⟩
      -- a common tightest bound would have dropped the strict one
      intro hgiven
      obtain ⟨⟨hnx, hx⟩, hny, hy⟩ := hgiven
      cases hstrict with
      | none => exact nomatch hnx
      | @tightest x _ hxmem hxt =>
          cases hloose with
          | none => exact nomatch hny
          | @tightest y _ hymem hyt =>
              obtain rfl := (hx x hxmem).antisymm (hxt n hnx)
              have hyn := (tightens_loosened_iff op y n).mp (hyt n hny)
              exact absurd (hdropped.mpr ⟨_, _, rfl, rfl, hyn⟩) (by simp [hd])
  | true =>
      obtain ⟨x, y, rfl, rfl, hyx⟩ := hdropped.mp hd
      cases hstrict with
      | tightest hxmem hxt =>
          cases hloose with
          | tightest hymem hyt =>
              rw [if_pos rfl]
              constructor
              · intro hgiven
                obtain ⟨-, hn⟩ := hgiven
                have hny := (holds_loosened_iff op y n).mp (hn y hymem)
                by_cases hxn : op.Tightens x n
                · -- the integer lies between the two bounds, so all three are one
                  obtain rfl := hny.antisymm (hyx.trans hxn)
                  obtain rfl := hxn.antisymm hyx
                  exact .inr ⟨⟨hxmem, hxt⟩, hymem, fun m hm =>
                    (tightens_loosened_iff op x m).mp (hyt m hm)⟩
                · have hx := (holds_iff_of_strict hop x n).mpr hxn
                  exact .inl ⟨fun m hm => hx.of_tightens (hxt m hm), hn⟩
              · intro hgiven
                obtain ⟨-, hn⟩ | ⟨-, -, hn⟩ := hgiven
                · exact ⟨(nomatch ·), hn⟩
                · exact ⟨(nomatch ·), fun m hm => (holds_loosened_iff op m n).mpr (hn m hm)⟩

end BoundOperator

/-! ## One field -/

/-- Two kept bounds are found to be in order when they are integers in order. -/
theorem inOrder_iff {op other : BoundOperator} {v w : Value} {xs ys : List Int}
    (hv : op.Kept v xs) (hw : other.Kept w ys) :
    (!v.isNull && !w.isNull && v.notAbove w) = true ↔
      ∃ x y, v = .int x ∧ w = .int y ∧ x ≤ y := by
  cases hv with
  | none => simp [Value.isNull]
  | tightest =>
      cases hw with
      | none => simp [Value.isNull]
      | tightest => simp [Value.isNull, Value.notAbove_int]

/-- Do the range slots of a field admit an integer? A slot that is missing excludes nothing. -/
def Admits (slots : Mapping Value) (n : Int) : Prop :=
  ∀ op : BoundOperator, ∀ bound, Mapping.find? (Operator.bound op).name slots = some bound →
    op.passes bound (.int n) = true

theorem admits_criteria_iff (a : Accumulator) (n : Int) :
    Admits a.criteria n ↔ ∀ op : BoundOperator, op.Lets (a.bound op) n := by
  refine forall_congr' fun op => ?_
  rw [Accumulator.find?_criteria, Accumulator.held?_bound]
  simp only [BoundOperator.Lets]
  cases (a.bound op).isNull <;> simp

/-- The range that a settled field admits, where all its bounds were kept of integers. -/
theorem admits_settle_iff {a : Accumulator} {ints : BoundOperator → List Int}
    (h : ∀ op : BoundOperator, op.Kept (a.bound op) (ints op)) (name : Value) (n : Int) :
    Admits (a.settle name).1.criteria n ↔
      ((∀ m ∈ ints .gt, m < n) ∧ (∀ m ∈ ints .gte, m ≤ n) ∨
        BoundOperator.gt.IsTightest (ints .gt) n ∧ BoundOperator.gt.IsTightest (ints .gte) n) ∧
      ((∀ m ∈ ints .lt, n < m) ∧ (∀ m ∈ ints .lte, n ≤ m) ∨
        BoundOperator.lt.IsTightest (ints .lt) n ∧ BoundOperator.lt.IsTightest (ints .lte) n) := by
  have hlower : a.lowerConflict = true ↔
      ∃ x y, a.gt = .int x ∧ a.gte = .int y ∧ BoundOperator.gt.Tightens y x := by
    simp only [Accumulator.lowerConflict]
    rw [Accumulator.has_bound, Accumulator.has_bound]
    exact inOrder_iff (h .gt) (h .gte)
  have hupper : a.upperConflict = true ↔
      ∃ x y, a.lt = .int x ∧ a.lte = .int y ∧ BoundOperator.lt.Tightens y x := by
    simp only [Accumulator.upperConflict]
    rw [Accumulator.has_bound, Accumulator.has_bound]
    -- the upper comparison names its bounds in the other order
    refine (inOrder_iff (h .lte) (h .lt)).trans ?_
    constructor
    · intro hgiven
      obtain ⟨y, x, hy, hx, hyx⟩ := hgiven
      exact ⟨x, y, hx, hy, hyx⟩
    · intro hgiven
      obtain ⟨x, y, hx, hy, hyx⟩ := hgiven
      exact ⟨y, x, hy, hx, hyx⟩
  have hlow := BoundOperator.lets_side_iff .gt (by decide) (h .gt) (h .gte) hlower n
  have hup := BoundOperator.lets_side_iff .lt (by decide) (h .lt) (h .lte) hupper n
  rw [admits_criteria_iff]
  simp only [Accumulator.bound_settle]
  constructor
  · intro hlets
    exact ⟨hlow.mp ⟨hlets .gt, hlets .gte⟩, hup.mp ⟨hlets .lt, hlets .lte⟩⟩
  · intro hgiven op
    obtain ⟨hl, hu⟩ := hgiven
    obtain ⟨hgt, hgte⟩ := hlow.mpr hl
    obtain ⟨hlt, hlte⟩ := hup.mpr hu
    cases op with
    | gt => exact hgt
    | gte => exact hgte
    | lte => exact hlte
    | lt => exact hlt

/-! ## Whole requests -/

/-- What a run keeps of the integers that the request gives for a field. -/
theorem kept_gathered {request : Request} {cs : List Contribution}
    (hcs : (({} : Schema).contributions [] request).result = .ok cs) {field : String}
    (hfield : field ≠ "") (op : BoundOperator)
    (hints : ∀ v ∈ request.pieces field (.bound op), ∃ n, IntegerPiece v n) :
    ∃ ints, op.Kept ((Accumulator.gathered (contributionsTo field cs)).bound op) ints ∧
      ∀ n, n ∈ ints ↔ n ∈ request.bounds field op := by
  obtain ⟨ints, hvalues, hmem⟩ := exists_ints_of_mapM (mapM_pieces hfield hcs (.bound op)) hints
  refine ⟨ints, ?_, hmem⟩
  rw [Accumulator.bound_gathered]
  exact BoundOperator.kept_foldl hvalues fun _ => ne_nil_of_mem_valuesUnder hcs

/-- The slots that a filter holds for a field; none, if the field is not in it. -/
def slotsOf (filter : Mapping Value) (field : String) : Mapping Value :=
  ((Mapping.find? field filter).bind Value.entries?).getD []

theorem isGreatest_iff {s : Set Int} {ints : List Int} (h : ∀ n, n ∈ ints ↔ n ∈ s) (n : Int) :
    BoundOperator.gt.IsTightest ints n ↔ IsGreatest s n := by
  unfold BoundOperator.IsTightest IsGreatest
  rw [h]
  refine and_congr_right fun _ => forall_congr' fun m => ?_
  rw [h]
  exact Iff.rfl

theorem isLeast_iff {s : Set Int} {ints : List Int} (h : ∀ n, n ∈ ints ↔ n ∈ s) (n : Int) :
    BoundOperator.lt.IsTightest ints n ↔ IsLeast s n := by
  unfold BoundOperator.IsTightest IsLeast
  rw [h]
  refine and_congr_right fun _ => forall_congr' fun m => ?_
  rw [h]
  exact Iff.rfl

/-- The lower test of a range: the integer passes all the lower bounds, or it is the greatest bound
under `>` and under `>=` alike. -/
def Request.PassesLower (request : Request) (field : String) (n : Int) : Prop :=
  (∀ m ∈ request.bounds field .gt, m < n) ∧ (∀ m ∈ request.bounds field .gte, m ≤ n) ∨
    IsGreatest (request.bounds field .gt) n ∧ IsGreatest (request.bounds field .gte) n

/-- The upper test of a range, the other way round. -/
def Request.PassesUpper (request : Request) (field : String) (n : Int) : Prop :=
  (∀ m ∈ request.bounds field .lt, n < m) ∧ (∀ m ∈ request.bounds field .lte, n ≤ m) ∨
    IsLeast (request.bounds field .lt) n ∧ IsLeast (request.bounds field .lte) n

/-- **The meaning of range filters.** Where every bound that a request gives for a field is an
integer, the filter admits the integers that pass all of them, and besides only an integer that is
both the tightest strict bound and the tightest other bound of a side. No integer that passes all
the bounds is excluded. -/
theorem range_admits_iff {fallback : Value} {request : Request} {result : Mapping Value}
    (h : (compile {} fallback request []).result = .ok result) {field : String}
    (hfield : field ≠ "") (hreserved : FieldName.isReserved (.text field) = false)
    (hints : ∀ op : BoundOperator, ∀ v ∈ request.pieces field (.bound op), ∃ n, IntegerPiece v n) :
    ∃ filter, Filters result filter ∧ ∀ n : Int,
      (Admits (slotsOf filter field) n ↔
        request.PassesLower field n ∧ request.PassesUpper field n) ∧
      ((∀ op : BoundOperator, ∀ m ∈ request.bounds field op, op.Holds m n) →
        Admits (slotsOf filter field) n) := by
  obtain ⟨cs, settled, pagination, hcs, hsettle, rfl⟩ := compile_schemaless_inv h
  refine ⟨_, filters_assemble rfl pagination, fun n => ?_⟩
  -- what the run keeps of the integers, for each operator
  choose ints hkept hmem using fun op => kept_gathered hcs hfield op (hints op)
  have hslots : slotsOf (filterOf settled.criteria) field =
      ((Accumulator.gathered (contributionsTo field cs)).settle (.text field)).1.criteria := by
    simp only [slotsOf]
    rw [find?_filterOf_settle hreserved hsettle, Accumulator.shown?, Accumulator.criteria?]
    split
    next hempty => rw [List.isEmpty_iff.mp hempty]; rfl
    next => rfl
  have hadmits := admits_settle_iff hkept (.text field) n
  rw [← hslots] at hadmits
  simp only [isGreatest_iff (hmem .gt), isGreatest_iff (hmem .gte), isLeast_iff (hmem .lt),
    isLeast_iff (hmem .lte), hmem] at hadmits
  refine ⟨hadmits, fun hall => hadmits.mpr ?_⟩
  exact ⟨.inl ⟨hall .gt, hall .gte⟩, .inl ⟨hall .lt, hall .lte⟩⟩

/-- Bounds on a price, in three spellings. -/
def priceRequest : Request :=
  [("price>5", .text ""), ("price>", .text "3| +5"), ("price<9", .null)]

/-- What they compile to: `>` gives way to `>=`, so five itself is admitted. -/
def priceResult : Mapping Value :=
  [(.text "query", .mapping [(.text "price", .mapping [(.text "gte", .int 5), (.text "lt", .int 9)])])]

theorem price_admits_iff :
    (compile {} (.int 1) priceRequest []).result = .ok priceResult ∧
    (∀ op : BoundOperator, ∀ v ∈ priceRequest.pieces "price" (.bound op), ∃ n, IntegerPiece v n) ∧
    ∃ filter, Filters priceResult filter ∧ ∀ n : Int,
      (Admits (slotsOf filter "price") n ↔
        priceRequest.PassesLower "price" n ∧ priceRequest.PassesUpper "price" n) ∧
      ((∀ op : BoundOperator, ∀ m ∈ priceRequest.bounds "price" op, op.Holds m n) →
        Admits (slotsOf filter "price") n) := by
  have hcompile : (compile {} (.int 1) priceRequest []).result = .ok priceResult := by
    have hread : (({} : Schema).contributions [] priceRequest).result =
        .ok [⟨.text "price", .gt, [.int 5]⟩, ⟨.text "price", .gte, [.int 3, .int 5]⟩,
          ⟨.text "price", .lt, [.int 9]⟩] := by rfl
    rw [compile_schemaless_result, hread]
    rfl
  have hpieces : ∀ op : BoundOperator, ∀ v ∈ priceRequest.pieces "price" (.bound op),
      ∃ n, IntegerPiece v n := by
    have hdigits : ∀ c : Char, Text.isDigit c = true → IsDigits [c] := fun c hc =>
      ⟨List.cons_ne_nil _ _, fun d hd => List.mem_singleton.mp hd ▸ hc⟩
    have hthree : IntegerPiece (.text "3") 3 :=
      .text ⟨[], ['3'], .absent, hdigits '3' (by decide), rfl, rfl⟩
    have hfive : IntegerPiece (.text "5") 5 :=
      .text ⟨[], ['5'], .absent, hdigits '5' (by decide), rfl, rfl⟩
    have hplusFive : IntegerPiece (.text "+5") 5 :=
      .text ⟨['+'], ['5'], .plus, hdigits '5' (by decide), rfl, rfl⟩
    have hnine : IntegerPiece (.text "9") 9 :=
      .text ⟨[], ['9'], .absent, hdigits '9' (by decide), rfl, rfl⟩
    have hgt : priceRequest.pieces "price" .gt = [.text "5"] := rfl
    have hgte : priceRequest.pieces "price" .gte = [.text "3", .text "+5"] := rfl
    have hlte : priceRequest.pieces "price" .lte = [] := rfl
    have hlt : priceRequest.pieces "price" .lt = [.text "9"] := rfl
    intro op
    cases op with
    | gt => simpa [hgt] using ⟨5, hfive⟩
    | gte => simpa [hgte] using ⟨⟨3, hthree⟩, 5, hplusFive⟩
    | lte => simp [hlte]
    | lt => simpa [hlt] using ⟨9, hnine⟩
  exact ⟨hcompile, hpieces, range_admits_iff hcompile (by decide) (by decide) hpieces⟩

end QueryFilter
