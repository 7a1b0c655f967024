import QueryFilter.Proofs.Bounds

/-!
# QueryFilter.Proofs.Accumulation

What gathering leaves in a matrix, when it is called for one field after the other.

* `Call`: the arguments of a call, and the values that it carries.
* `Matrix.take`: a call on a matrix; a run of calls is the fold of it.
* `foldlM_take`: a run adds what its calls contribute, one after the other.
* `Tally`: the lists and bounds of a run, told from its calls.
* `foldlM_take_tally`: a run whose bounds are integers leaves this tally and reports nothing.
* `Matrix.after_of_refused`: what is left by one call that gathers nothing.
-/

namespace QueryFilter

/-! ## Calls -/

/-- A call: the descriptor of a field, and a token with the field's name, an operator and a raw
value. -/
structure Call where
  descriptor : Descriptor
  token : Token

namespace Call

variable (conversions : Conversions)

/-- The values of a call, converted as the descriptor asks. -/
def read (call : Call) : Except Fault (List Value) :=
  readValues conversions (call.descriptor.coercion?.getD .standard) call.token.operator
    call.token.value

/-- The converted values of a call; none, if a conversion fails. -/
def values (call : Call) : List Value := (call.read conversions).toOption.getD []

/-- Is the call addressed to an operator of a field? -/
def isFor (name : String) (op : Operator) (call : Call) : Bool :=
  decide (call.token.name = name ∧ call.token.operator = op)

/-- The values that calls give for an operator of a field, in the order of the calls. -/
def given (calls : List Call) (name : String) (op : Operator) : List Value :=
  (calls.filter (isFor name op)).flatMap (values conversions)

/-- What a call contributes; nothing, if it carries no value. -/
def contribution? (call : Call) : Option Contribution :=
  if (call.values conversions).isEmpty then none
  else some ⟨.text call.token.name, call.token.operator, call.values conversions⟩

/-- What calls contribute, in order. -/
def contributions (calls : List Call) : List Contribution :=
  calls.filterMap (contribution? conversions)

end Call

namespace Matrix

/-- A call on a matrix, with its reports. -/
def take (conversions : Conversions) (m : Matrix) (call : Call) : Logged Matrix := do
  let g ← m.gather conversions call.descriptor (.text call.token.name) call.token.value
    call.token.operator
  Logged.report g.diagnostics g.matrix

end Matrix

variable {conversions : Conversions}

/-! ## Contributions of calls -/

theorem Call.values_of_read {call : Call} {values : List Value}
    (h : call.read conversions = .ok values) : call.values conversions = values := by
  unfold Call.values
  rw [h]
  rfl

/-- A call adds its contribution, if it has one. -/
theorem Matrix.take_eq {call : Call} {values : List Value}
    (h : call.read conversions = .ok values) (m : Matrix) :
    m.take conversions call = m.growBy (call.contribution? conversions) := by
  have hadds : call.token.contribution? { conversions } (.text call.token.name) call.descriptor =
      .ok (call.contribution? conversions) := by
    unfold Token.contribution? Call.contribution?
    rw [Call.values_of_read h, show readValues _ _ _ _ = _ from h]
    cases values <;> simp [bind, Except.bind, pure, Except.pure]
  unfold Matrix.take
  rw [Matrix.gather_eq { conversions }, hadds]
  rfl

theorem Call.contributions_cons (call : Call) (rest : List Call) :
    contributions conversions (call :: rest) =
      (call.contribution? conversions).toList ++ contributions conversions rest := by
  unfold contributions
  rw [List.filterMap_cons]
  cases call.contribution? conversions <;> rfl

/-- A run adds what its calls contribute, one after the other. -/
theorem foldlM_take {calls : List Call}
    (h : ∀ call ∈ calls, ∃ values, call.read conversions = .ok values) (m : Matrix) :
    calls.foldlM (Matrix.take conversions) m =
      ⟨m.growReports (Call.contributions conversions calls),
        .ok ((Call.contributions conversions calls).foldl Matrix.grow m)⟩ := by
  induction calls generalizing m with
  | nil => rfl
  | cons call rest ih =>
      obtain ⟨values, hread⟩ := h call List.mem_cons_self
      rw [List.foldlM_cons, Matrix.take_eq hread, Matrix.growBy_eq, Logged.bind_ok,
        ih fun c hc => h c (List.mem_cons_of_mem call hc), Call.contributions_cons,
        Matrix.growReports_append, List.foldl_append]

namespace Call

/-- Each call that carries a value contributes. -/
theorem mem_contributions {calls : List Call} {c : Contribution} :
    c ∈ contributions conversions calls ↔ ∃ call ∈ calls, call.values conversions ≠ [] ∧
      c = ⟨.text call.token.name, call.token.operator, call.values conversions⟩ := by
  unfold contributions
  rw [List.mem_filterMap]
  refine exists_congr fun call => and_congr_right fun _ => ?_
  unfold contribution?
  cases call.values conversions with
  | nil => simp
  | cons v rest => simp [eq_comm]

theorem exists_name_of_mem_contributions {calls : List Call} :
    ∀ c ∈ contributions conversions calls, ∃ name, c.name = .text name := by
  intro c hc
  obtain ⟨call, -, -, rfl⟩ := mem_contributions.mp hc
  exact ⟨_, rfl⟩

section Contributed

variable {calls : List Call} {name : String} {op : Operator}

/-- What is contributed to an operator of a field: the values of the calls that are addressed to it,
save for calls without a value. -/
theorem valuesUnder_contributions :
    valuesUnder op (contributionsTo name (contributions conversions calls)) =
      ((calls.filter (isFor name op)).map (values conversions)).filter (!·.isEmpty) := by
  induction calls with
  | nil => rfl
  | cons call rest ih =>
      rw [contributions_cons, contributionsTo_append, valuesUnder_append, ih, List.filter_cons]
      unfold contribution?
      by_cases hempty : call.values conversions = []
      · -- a call without a value contributes nothing, and is left out wherever it is addressed
        rw [if_pos (List.isEmpty_iff.mpr hempty)]
        split
        next => rw [List.map_cons, hempty]; rfl
        next => rfl
      · rw [if_neg (mt List.isEmpty_iff.mp hempty)]
        by_cases hname : call.token.name = name
        · subst hname
          rw [Option.toList_some, contributionsTo_cons_self rfl, valuesUnder_cons]
          by_cases hop : call.token.operator = op
          · rw [if_pos hop, if_pos (by simp [isFor, hop]), List.map_cons,
              List.filter_cons_of_pos (by simpa using hempty)]
            rfl
          · rw [if_neg hop, if_neg (by simp [isFor, hop])]
            rfl
        · rw [Option.toList_some, contributionsTo_cons_of_ne (Value.text_ne_of_ne hname),
            if_neg (by simp [isFor, hname])]
          rfl

theorem flatten_valuesUnder :
    (valuesUnder op (contributionsTo name (contributions conversions calls))).flatten =
      given conversions calls name op := by
  rw [valuesUnder_contributions, List.flatten_filter_not_isEmpty, given, List.flatMap]

theorem ne_nil_of_mem_valuesUnder {new : List Value}
    (h : new ∈ valuesUnder op (contributionsTo name (contributions conversions calls))) :
    new ≠ [] := by
  rw [valuesUnder_contributions] at h
  simpa using (List.mem_filter.mp h).2

/-- Nothing is contributed exactly where no value is given. -/
theorem valuesUnder_eq_nil_iff :
    valuesUnder op (contributionsTo name (contributions conversions calls)) = [] ↔
      given conversions calls name op = [] := by
  rw [← flatten_valuesUnder, List.flatten_eq_nil_iff, List.eq_nil_iff_forall_not_mem]
  refine forall_congr' fun new => ⟨fun h hmem => absurd hmem h, fun h hmem => ?_⟩
  exact ne_nil_of_mem_valuesUnder hmem (h hmem)

end Contributed

end Call

/-! ## Runs -/

/-- What a run of calls leaves in a matrix: the lists of their values in order, and the tightest of
their bounds. -/
structure Tally (conversions : Conversions) (calls : List Call) (m : Matrix) : Prop where
  /-- the fields are those that a call carries a value for -/
  mem_keys_iff : ∀ key, key ∈ Mapping.keys m ↔
    ∃ call ∈ calls, call.values conversions ≠ [] ∧ key = .text call.token.name
  nodup_keys : (Mapping.keys m).Nodup
  /-- a list is what the calls give for it, and missing where they give nothing -/
  collected : ∀ (name : String) (op : ListOperator), (m.field (.text name)).collected op =
    if Call.given conversions calls name (.collect op) = [] then none
    else some (Call.given conversions calls name (.collect op))
  /-- a bound is the tightest of what the calls give for it, the greatest under an operator that keeps
  the greatest and else the least, and missing where they give nothing -/
  bound : ∀ (name : String) (op : BoundOperator), op.Retains ((m.field (.text name)).bound op)
    (Call.given conversions calls name (.bound op))

namespace Call

variable {calls : List Call}

/-- A run adds the fields that its calls carry a value for. -/
theorem mem_keys_iff (key : Value) :
    key ∈ Mapping.keys ((contributions conversions calls).foldl Matrix.grow []) ↔
      ∃ call ∈ calls, call.values conversions ≠ [] ∧ key = .text call.token.name := by
  constructor
  · intro hkey
    rcases Matrix.mem_keys_foldl_grow hkey with hnil | ⟨c, hc, rfl⟩
    · exact nomatch hnil
    · obtain ⟨call, hmem, hne, rfl⟩ := mem_contributions.mp hc
      exact ⟨call, hmem, hne, rfl⟩
  · rintro ⟨call, hmem, hne, rfl⟩
    have hc := mem_contributions.mpr ⟨call, hmem, hne, rfl⟩
    have hto : _ ∈ contributionsTo call.token.name _ :=
      List.mem_filter.mpr ⟨hc, Value.text_beq_iff.mpr rfl⟩
    exact List.mem_map_of_mem ((Matrix.mem_gathered_iff exists_name_of_mem_contributions).mpr
      ⟨call.token.name, List.ne_nil_of_mem hto, rfl⟩)

/-- The bounds that a run contributes to a field can be combined where they are integers, and the
tightest of them is kept. -/
theorem exists_foldlM_combine? {name : String} {op : BoundOperator}
    (hints : ∀ v ∈ given conversions calls name (.bound op), ∃ n, v.integer? = some n) :
    ∃ v, (valuesUnder (.bound op)
        (contributionsTo name (contributions conversions calls))).foldlM op.combine? .null = some v ∧
      op.Retains v (given conversions calls name (.bound op)) := by
  have h := (BoundOperator.Retains.none : op.Retains .null []).exists_foldlM_combine?
    (fun new hnew => ne_nil_of_mem_valuesUnder hnew)
    (fun w hw => hints w (flatten_valuesUnder ▸ hw))
  rwa [List.nil_append, flatten_valuesUnder] at h

theorem growReports_eq_nil
    (hints : ∀ (name : String) (op : BoundOperator),
      ∀ v ∈ given conversions calls name (.bound op), ∃ n, v.integer? = some n) :
    Matrix.growReports [] (contributions conversions calls) = [] := by
  rw [Matrix.growReports_eq_nil_iff exists_name_of_mem_contributions]
  intro name
  refine (Accumulator.takes_gathered_iff _).mpr fun op => ?_
  obtain ⟨v, hv, -⟩ := exists_foldlM_combine? (hints name op)
  rw [hv]
  rfl

end Call

/-- **Accumulation over runs.** Where no conversion fails and all bounds are integers, a run of calls
that starts with an empty matrix comes to its end without a report. In the matrix each list is what
the calls addressed to it give, in their order, each bound is the greatest or the least of what they
give, and the fields are those that some call carries a value for. -/
theorem foldlM_take_tally {calls : List Call}
    (hread : ∀ call ∈ calls, ∃ values, call.read conversions = .ok values)
    (hints : ∀ call ∈ calls, call.token.operator.isBound = true →
      ∀ v ∈ call.values conversions, ∃ n, v.integer? = some n) :
    ∃ m, calls.foldlM (Matrix.take conversions) [] = ⟨[], .ok m⟩ ∧ Tally conversions calls m := by
  have hgiven : ∀ (name : String) (op : BoundOperator),
      ∀ v ∈ Call.given conversions calls name (.bound op), ∃ n, v.integer? = some n := by
    intro name op v hv
    obtain ⟨call, hcall, hv⟩ := List.mem_flatMap.mp hv
    obtain ⟨hmem, hfor⟩ := List.mem_filter.mp hcall
    have hop : call.token.operator = .bound op := (of_decide_eq_true hfor).2
    exact hints call hmem (by rw [hop]; rfl) v hv
  refine ⟨_, by rw [foldlM_take hread, Call.growReports_eq_nil hgiven], Call.mem_keys_iff,
    Matrix.nodup_keys_foldl_grow Call.exists_name_of_mem_contributions List.Pairwise.nil, ?_, ?_⟩
  · intro name op
    rw [Matrix.field_gathered, Accumulator.collected_gathered_eq, Call.flatten_valuesUnder]
    simp only [Call.valuesUnder_eq_nil_iff]
  · intro name op
    obtain ⟨v, hv, hretains⟩ := Call.exists_foldlM_combine? (hgiven name op)
    rw [Matrix.field_gathered, Accumulator.bound_gathered, BoundOperator.foldl_keep_of_foldlM hv]
    exact hretains

/-- Calls for two fields in turn, under descriptors that differ. A bound of zero comes before a lesser
one, one call carries no value, and no other call names its field. -/
def stockCalls : List Call :=
  [⟨{}, ⟨"price", .text "0", .gte⟩⟩, ⟨{}, ⟨"color", .text "red | blue", .eq⟩⟩,
    ⟨{}, ⟨"price", .text "-5", .gte⟩⟩, ⟨{}, ⟨"size", .list [], .gte⟩⟩,
    ⟨{ conversion := .callable .numeric }, ⟨"color", .text "7", .eq⟩⟩,
    ⟨{}, ⟨"price", .list [.text "9", .int 8], .lt⟩⟩]

theorem foldlM_take_stockCalls :
    (∀ call ∈ stockCalls, ∃ values, call.read (fun _ v => .ok v) = .ok values) ∧
    (∀ call ∈ stockCalls, call.token.operator.isBound = true →
      ∀ v ∈ call.values (fun _ v => .ok v), ∃ n, v.integer? = some n) ∧
    ∃ m, stockCalls.foldlM (Matrix.take fun _ v => .ok v) [] = ⟨[], .ok m⟩ ∧
      Tally (fun _ v => .ok v) stockCalls m := by
  have hread : ∀ call ∈ stockCalls, ∃ values, call.read (fun _ v => .ok v) = .ok values := by
    simp only [stockCalls, List.forall_mem_cons]
    exact ⟨⟨_, rfl⟩, ⟨_, rfl⟩, ⟨_, rfl⟩, ⟨_, rfl⟩, ⟨_, rfl⟩, ⟨_, rfl⟩, List.forall_mem_nil _⟩
  have hsome : ∀ call ∈ stockCalls, call.token.operator.isBound = true →
      ∀ v ∈ call.values (fun _ v => .ok v), v.integer?.isSome = true := by
    decide
  have hints := fun call hcall hbound v hv =>
    Option.isSome_iff_exists.mp (hsome call hcall hbound v hv)
  exact ⟨hread, hints, foldlM_take_tally hread hints⟩

/-! ## One call that gathers nothing -/

/-- The outcome of a call that gathers nothing: it fails, or it says that nothing was gathered. -/
def Refused : Except Fault Gathering → Prop
  | .ok g => g.gathered = false
  | .error _ => True

/-- The matrix after a call with that outcome. A call that fails leaves the matrix alone. -/
def Matrix.after (m : Matrix) : Except Fault Gathering → Matrix
  | .ok g => g.matrix
  | .error _ => m

section OneCall

variable {d : Descriptor} {name raw : Value} {op : Operator} {m : Matrix}

/-- The first values for a field, under an operator that keeps a bound, have no common order. -/
structure Incomparable (conversions : Conversions) (d : Descriptor) (name raw : Value)
    (op : Operator) (m : Matrix) : Prop where
  key : name.asKey = .ok name
  missing : Mapping.hasKey name m = false
  unordered : ∃ (b : BoundOperator) (values : List Value), op = .bound b ∧
    readValues conversions (d.coercion?.getD .standard) op raw = .ok values ∧
    b.combine? .null values = none

theorem Matrix.field_of_not_hasKey (h : Mapping.hasKey name m = false) :
    m.field name = .empty := by
  have hnone := Option.isNone_iff_eq_none.mp (Option.isSome_eq_false_iff.mp h)
  unfold Matrix.field
  rw [hnone]
  rfl

/-- Writing what a field has changes nothing, if the field is there. -/
theorem Matrix.put_field (h : Mapping.hasKey name m = true) :
    Mapping.put name (m.field name) m = m := by
  obtain ⟨a, ha⟩ := Option.isSome_iff_exists.mp h
  unfold Matrix.field
  rw [ha]
  exact Mapping.put_eq_self ha

/-- Values that are not gathered leave their field with what it has, for they are bounds that cannot
be combined with it. -/
theorem Matrix.add_of_refused {values : List Value} (h : (m.add name op values).gathered = false) :
    (m.add name op values).matrix = Mapping.put name (m.field name) m ∧
      ∃ b : BoundOperator, op = .bound b ∧ b.combine? ((m.field name).bound b) values = none := by
  unfold Matrix.add at *
  dsimp only at *
  cases hadd : (m.field name).add? op values with
  | some a =>
      rw [hadd] at h
      exact nomatch h
  | none =>
      refine ⟨rfl, ?_⟩
      cases op with
      | collect l => exact nomatch hadd
      | bound b => exact ⟨b, rfl, Option.map_eq_none_iff.mp hadd⟩

/-- A call whose values are known adds them, if it has any and its name may be a key. -/
theorem Matrix.gather_of_readValues {values : List Value}
    (hread : readValues conversions (d.coercion?.getD .standard) op raw = .ok values) :
    m.gather conversions d name raw op =
      if values = [] then .ok ⟨m, false, []⟩
      else name.asKey >>= fun key => .ok (m.add key op values) := by
  unfold Matrix.gather
  rw [hread]
  cases values <;> rfl

/-- Such values are refused, but their field is there from now on. -/
theorem Incomparable.gather_eq (h : Incomparable conversions d name raw op m) :
    m.gather conversions d name raw op =
      .ok ⟨m ++ [(name, .empty)], false, [.incomparable name]⟩ := by
  obtain ⟨hkey, hmissing, b, values, rfl, hread, hnone⟩ := h
  have hne : values ≠ [] := by
    rintro rfl
    exact nomatch hnone
  have hadd : Accumulator.empty.add? (.bound b) values = none := by
    show (b.combine? (Accumulator.empty.bound b) values).map _ = none
    rw [show Accumulator.empty.bound b = .null by cases b <;> rfl, hnone]
    rfl
  rw [Matrix.gather_of_readValues hread, if_neg hne, hkey]
  show Except.ok (m.add name (.bound b) values) = _
  unfold Matrix.add
  rw [Matrix.field_of_not_hasKey hmissing]
  dsimp only
  rw [hadd, Mapping.put_of_not_hasKey hmissing]
  cases b <;> rfl

/-- **One call that gathers nothing.** It leaves the matrix as it was, except where the first values
for a field are bounds without a common order: then the field is there afterwards, with nothing in
it. -/
theorem Matrix.after_of_refused (h : Refused (m.gather conversions d name raw op)) :
    (Incomparable conversions d name raw op m →
      m.after (m.gather conversions d name raw op) = m ++ [(name, .empty)]) ∧
    (¬Incomparable conversions d name raw op m →
      m.after (m.gather conversions d name raw op) = m) := by
  constructor
  · intro hincomparable
    rw [hincomparable.gather_eq]
    rfl
  intro hcomparable
  cases hread : readValues conversions (d.coercion?.getD .standard) op raw with
  | error fault =>
      unfold Matrix.gather
      rw [hread]
      rfl
  | ok values =>
      rw [gather_of_readValues hread] at h ⊢
      split at h
      next hnil =>
        rw [if_pos hnil]
        rfl
      next hne =>
        rw [if_neg hne]
        cases hkey : name.asKey with
        | error fault => rfl
        | ok key =>
            obtain rfl := Value.asKey_eq_ok hkey
            rw [hkey] at h
            obtain ⟨hmatrix, b, rfl, hnone⟩ := add_of_refused h
            refine Eq.trans hmatrix (put_field ?_)
            -- a new field has nothing yet, so it is the values themselves that have no common order
            refine eq_true_of_ne_false fun hmissing => hcomparable ⟨hkey, hmissing, ?_⟩
            rw [field_of_not_hasKey hmissing] at hnone
            exact ⟨b, values, rfl, hread, by cases b <;> exact hnone⟩

/-- Values of which two have no common order, as the first ones for a field. -/
theorem after_mixedBound :
    Refused (Matrix.gather (fun _ v => .ok v) {} (.text "x") (.list [.text "a", .int 1]) .gt []) ∧
    (Incomparable (fun _ v => .ok v) {} (.text "x") (.list [.text "a", .int 1]) .gt [] →
      Matrix.after [] (Matrix.gather (fun _ v => .ok v) {} (.text "x")
        (.list [.text "a", .int 1]) .gt []) = [] ++ [(.text "x", .empty)]) ∧
    (¬Incomparable (fun _ v => .ok v) {} (.text "x") (.list [.text "a", .int 1]) .gt [] →
      Matrix.after [] (Matrix.gather (fun _ v => .ok v) {} (.text "x")
        (.list [.text "a", .int 1]) .gt []) = []) := by
  have h : Refused (Matrix.gather (fun _ v => .ok v) {} (.text "x")
      (.list [.text "a", .int 1]) .gt []) := by rfl
  exact ⟨h, Matrix.after_of_refused h⟩

/-- So a call that gathers nothing does not always leave the matrix as it was. -/
theorem not_after_of_mixedBound :
    ¬∀ (m : Matrix) (d : Descriptor) (name raw : Value) (op : Operator),
      Refused (m.gather (fun _ v => .ok v) d name raw op) →
        m.after (m.gather (fun _ v => .ok v) d name raw op) = m := by
  intro h
  have hmixed := h [] {} (.text "x") (.list [.text "a", .int 1]) .gt rfl
  exact nomatch hmixed

end OneCall

end QueryFilter
