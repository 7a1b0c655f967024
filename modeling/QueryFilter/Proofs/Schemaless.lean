import QueryFilter.Proofs.Compiling

/-!
# QueryFilter.Proofs.Schemaless

Requests that are compiled without a schema and a configuration. Every pair with a name is accepted
and its values are converted in the standard way, so what a field receives under an operator is a
matter of the request's text alone.

* `Token.convert`: the values that a token carries.
* `Token.value_read`, `contribution?_schemaless`: what one pair carries, and what it adds.
* `Request.pieces`: the raw pieces that a request gives for a field under an operator.
* `mapM_pieces`: what a run contributes to the field under the operator, those pieces converted.
* `compile_schemaless_result`, `compile_schemaless_inv`, `compile_schemaless_clean_iff`: the stages of
  such a request.
-/

namespace QueryFilter

/-- The standard conversion of a piece. -/
def convertPiece : Value → Except Fault Value := Coercion.standard.applyTo fun _ v => .ok v

/-- A text becomes the number that it spells, or else itself without the blanks around it. -/
theorem convertPiece_text (s : String) :
    convertPiece (.text s) =
      (readNumber s).map fun n? => (n?.map Value.ofNumber).getD (.text (Text.strip s)) := by
  show (readNumber s >>= _) = _
  cases readNumber s with
  | error fault => rfl
  | ok n? => cases n? <;> rfl

/-- The values that a token carries where no schema says otherwise. -/
def Token.convert (t : Token) : Except Fault (List Value) :=
  (rawPieces t.operator t.value).mapM convertPiece

/-! ## Pairs -/

/-- A token carries the raw value of its pair, a text that was cut from the key, or null. -/
theorem Token.value_read (key : String) (v : Value) :
    (Token.read key v).value = .null ∨ (Token.read key v).value = v ∨
      ∃ s, (Token.read key v).value = .text s := by
  have hnull : ∀ w : Value, readNull w = .null ∨ readNull w = w := by
    intro w
    cases w with
    | text s =>
        unfold readNull
        dsimp only
        split
        · exact .inl rfl
        · exact .inr rfl
    | _ => exact .inr rfl
  have hpair : (Token.ofPair key v).value = v := by
    unfold Token.ofPair
    dsimp only
    split <;> rfl
  have hkey : (Token.ofKey key v).value = v ∨ ∃ s, (Token.ofKey key v).value = .text s := by
    unfold Token.ofKey
    split
    · exact .inr ⟨_, rfl⟩
    · exact .inl rfl
  unfold Token.read
  dsimp only
  split
  · rw [hpair]
    exact (hnull v).imp id .inl
  · rcases hnull (Token.ofKey key v).value with h | h
    · exact .inl h
    · rw [h]
      exact .inr hkey

theorem Token.contribution?_schemaless (name : String) (t : Token) :
    t.contribution? {} (.text name) {} = t.convert.map fun values =>
      if values.isEmpty then none else some ⟨.text name, t.operator, values⟩ := by
  show (t.convert >>= fun values =>
    if values.isEmpty then pure none
    else (Value.text name).asKey >>= fun key =>
      pure (some (Contribution.mk key t.operator values))) = _
  cases t.convert with
  | error fault => rfl
  | ok values =>
      by_cases he : values.isEmpty = true
      · simp [bind, Except.bind, Except.map, he, pure, Except.pure]
      · simp only [bind, Except.bind, Except.map, he]
        rfl

/-- Without a schema a pair adds what its token carries, unless its name is empty. -/
theorem Schema.contribution?_schemaless (cfg : Config) (pair : String × Value) :
    ({} : Schema).contribution? cfg pair =
      if (Token.read pair.1 pair.2).name = "" then ⟨[.emptyName], .ok none⟩
      else ⟨[], (Token.read pair.1 pair.2).contribution? {}
        (.text (Token.read pair.1 pair.2).name) {}⟩ := by
  unfold Schema.contribution? Schema.check
  by_cases hname : (Token.read pair.1 pair.2).name = ""
  · rw [if_pos hname]
    simp [Schema.normalize, hname, Value.isTruthy, Logged.report]
  · rw [if_neg hname]
    simp [Schema.normalize, hname, Value.isTruthy, Schema.acceptsAll, Schema.lookup?]
    exact ⟨rfl, rfl⟩

/-- The raw pieces that a request gives for a field under an operator, in order. -/
def Request.pieces (request : Request) (name : String) (op : Operator) : List Value :=
  request.flatMap fun pair =>
    let t := Token.read pair.1 pair.2
    if t.name = name ∧ t.operator = op then rawPieces op t.value else []

theorem Request.mem_pieces {request : Request} {name : String} {op : Operator} {v : Value} :
    v ∈ request.pieces name op ↔ ∃ pair ∈ request, (Token.read pair.1 pair.2).name = name ∧
      (Token.read pair.1 pair.2).operator = op ∧ v ∈ rawPieces op (Token.read pair.1 pair.2).value := by
  simp only [Request.pieces, List.mem_flatMap]
  refine exists_congr fun pair => and_congr_right fun _ => ?_
  split
  next h => simp [h]
  next h => simpa [and_assoc] using fun h₁ h₂ => absurd ⟨h₁, h₂⟩ h

/-! ## Runs -/

/-- What a field receives under an operator from a pair that brings values: all of them if they are
for it, and else nothing. -/
theorem flatten_valuesUnder_pair (n name : String) (o op : Operator) (values : List Value) :
    (valuesUnder op (contributionsTo name
      (if values.isEmpty then none else some (Contribution.mk (.text n) o values)).toList)).flatten =
        if n = name ∧ o = op then values else [] := by
  cases values with
  | nil => exact (ite_self []).symm
  | cons v values =>
      rw [List.isEmpty_cons, if_neg Bool.false_ne_true, Option.toList_some]
      by_cases hn : n = name
      · rw [contributionsTo_cons_self (by rw [hn]), valuesUnder_cons]
        by_cases ho : o = op
        · rw [if_pos ho, if_pos ⟨hn, ho⟩]
          simp
        · rw [if_neg ho, if_neg fun h => ho h.2]
          rfl
      · rw [contributionsTo_cons_of_ne (Value.text_ne_of_ne hn), if_neg fun h => hn h.1]
        rfl

/-- One pair's share of what a field receives under an operator: the pieces of the pair, if it is
for that field and operator, converted. -/
theorem mapM_pieces_of_contribution? {cfg : Config} {name : String} (hname : name ≠ "")
    {pair : String × Value} {c : Option Contribution}
    (hc : (({} : Schema).contribution? cfg pair).result = .ok c) (op : Operator) :
    (Request.pieces [pair] name op).mapM convertPiece =
      .ok (valuesUnder op (contributionsTo name c.toList)).flatten := by
  rw [Schema.contribution?_schemaless] at hc
  simp only [Request.pieces, List.flatMap_cons, List.flatMap_nil, List.append_nil]
  generalize Token.read pair.1 pair.2 = t at hc
  by_cases ht : t.name = ""
  · -- a pair without a name is for no field
    rw [if_pos ht] at hc
    obtain rfl := Except.ok.inj hc
    rw [if_neg fun h => hname (h.1.symm.trans ht)]
    rfl
  · rw [if_neg ht] at hc
    change t.contribution? {} (.text t.name) {} = _ at hc
    rw [Token.contribution?_schemaless] at hc
    cases hvalues : t.convert with
    | error fault =>
        rw [hvalues] at hc
        exact nomatch hc
    | ok values =>
        rw [hvalues] at hc
        obtain rfl := Except.ok.inj hc
        rw [flatten_valuesUnder_pair]
        split
        next hfor =>
          rw [← hfor.2]
          exact hvalues
        next => rfl

/-- What a run contributes to a field under an operator: the pieces that the request gives for
them, converted in order. -/
theorem mapM_pieces {cfg : Config} {name : String} (hname : name ≠ "") {request : Request}
    {cs : List Contribution} (hcs : (({} : Schema).contributions cfg request).result = .ok cs)
    (op : Operator) :
    (request.pieces name op).mapM convertPiece =
      .ok (valuesUnder op (contributionsTo name cs)).flatten := by
  induction request generalizing cs with
  | nil =>
      obtain rfl := Except.ok.inj hcs
      rfl
  | cons pair rest ih =>
      obtain ⟨c, hc, hcs⟩ := Logged.result_bind_ok hcs
      obtain ⟨more, hmore, hcs⟩ := Logged.result_bind_ok hcs
      obtain rfl := Except.ok.inj hcs
      have hsplit : Request.pieces (pair :: rest) name op =
          Request.pieces [pair] name op ++ Request.pieces rest name op := by
        simp [Request.pieces]
      rw [hsplit, List.mapM_append, mapM_pieces_of_contribution? hname hc, ih hmore,
        contributionsTo_append, valuesUnder_append, List.flatten_append]
      rfl

/-- Without a schema contributions go to fields that have text names. -/
theorem Schema.exists_text_of_mem_contributions {cfg : Config} {request : Request}
    {cs : List Contribution} (h : (({} : Schema).contributions cfg request).result = .ok cs)
    {c : Contribution} (hc : c ∈ cs) : ∃ name, c.name = .text name := by
  obtain ⟨pair, -, hpair⟩ := mem_contributions h hc
  obtain ⟨d, hname, -⟩ := contribution?_inv hpair
  exact ⟨_, (Except.ok.inj hname).symm⟩

/-- Every contribution brings a value. -/
theorem ne_nil_of_mem_valuesUnder {s : Schema} {cfg : Config} {request : Request}
    {cs : List Contribution} (hcs : (s.contributions cfg request).result = .ok cs)
    {name : String} {op : Operator} {values : List Value}
    (h : values ∈ valuesUnder op (contributionsTo name cs)) : values ≠ [] := by
  obtain ⟨c, hc, hval⟩ := List.mem_filterMap.mp h
  split at hval
  next =>
    obtain rfl := Option.some.inj hval
    obtain ⟨pair, -, hpair⟩ := Schema.mem_contributions hcs (name_of_mem_contributionsTo hc).1
    obtain ⟨d, -, -, -, -, hne⟩ := Schema.contribution?_inv hpair
    exact hne
  next => exact nomatch hval

/-! ## The stages -/

/-- The stages of a request, each of which may fail. -/
theorem compile_schemaless_result (fallback : Value) (request : Request) :
    (compile {} fallback request []).result =
      (({} : Schema).contributions [] request).result >>= fun cs =>
      (Matrix.settle {} [] (cs.foldl Matrix.grow [])).result >>= fun settled =>
      Pagination.ofQuery settled.criteria [] false fallback >>= fun pagination =>
      .ok (assemble (filterOf settled.criteria) [] pagination) := by
  rw [compile_result]
  rfl

/-- The stages of a request that has a result. -/
theorem compile_schemaless_inv {fallback : Value} {request : Request} {result : Mapping Value}
    (h : (compile {} fallback request []).result = .ok result) :
    ∃ cs settled pagination,
      (({} : Schema).contributions [] request).result = .ok cs ∧
      (Matrix.settle {} [] (cs.foldl Matrix.grow [])).result = .ok settled ∧
      result = assemble (filterOf settled.criteria) [] pagination := by
  obtain ⟨cs, filled, settled, pagination, hcs, hfill, hsettle, hresult⟩ := compile_inv h
  obtain rfl := Except.ok.inj hfill
  exact ⟨cs, settled, pagination, hcs, hsettle, hresult⟩

/-- The entry of a field that is not reserved is what settling leaves of the contributions to it. -/
theorem find?_filterOf_settle {name : String}
    (hname : FieldName.isReserved (.text name) = false) {cs : List Contribution}
    {settled : Matrix} (h : (Matrix.settle {} [] (cs.foldl Matrix.grow [])).result = .ok settled) :
    Mapping.find? name (filterOf settled.criteria) =
      (Accumulator.gathered (contributionsTo name cs)).shown? (.text name) := by
  rw [find?_filterOf hname, Mapping.find?_eq_head?_allAt,
    Matrix.allAt_criteria_of_settle (isSort_eq_false_of_isReserved hname) h,
    Matrix.allAt_gathered]
  split
  next hnone =>
    -- a field without a contribution has nothing to show either
    rw [List.isEmpty_iff.mp hnone]
    rfl
  next => cases hentry : (Accumulator.gathered (contributionsTo name cs)).shown? (.text name) <;>
    simp [hentry]

/-- The stages of a request that has a result and of which nothing is reported. -/
theorem compile_schemaless_clean_iff {fallback : Value} {request : Request}
    {result : Mapping Value} :
    (compile {} fallback request []).Clean result ↔
      ∃ cs settled pagination,
        (({} : Schema).contributions [] request).Clean cs ∧ Matrix.growReports [] cs = [] ∧
        (Matrix.settle {} [] (cs.foldl Matrix.grow [])).Clean settled ∧
        Pagination.ofQuery settled.criteria [] false fallback = .ok pagination ∧
        result = assemble (filterOf settled.criteria) [] pagination := by
  have hfill : ∀ m : Matrix, (fillDefaults [] ([] : Mapping Value) m).toLogged = ⟨[], .ok (m, [])⟩ :=
    fun _ => rfl
  have hlift : ∀ (r : Except Fault (Option Pagination)) (p : Option Pagination),
      (liftM r : Logged (Option Pagination)).Clean p ↔ r = .ok p := by
    intro r p
    cases r <;> simp [Logged.Clean]
  unfold compile gatherRequest
  simp only [Logged.clean_bind_iff, gatherPairs_clean_iff, Option.getD_none, hfill,
    Logged.clean_mk_iff, hlift, Logged.pure_eq]
  constructor
  · intro hgiven
    obtain ⟨_, ⟨m, ⟨cs, hcs, hgrow, rfl⟩, -, rfl⟩, settled, hsettled, p, hp, -, rfl⟩ := hgiven
    exact ⟨cs, settled, p, hcs, hgrow, hsettled, hp, rfl⟩
  · intro hgiven
    obtain ⟨cs, settled, p, hcs, hgrow, hsettled, hp, rfl⟩ := hgiven
    exact ⟨_, ⟨_, ⟨cs, hcs, hgrow, rfl⟩, trivial, rfl⟩, settled, hsettled, p, hp, trivial, rfl⟩

end QueryFilter
