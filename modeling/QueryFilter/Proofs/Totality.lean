import QueryFilter.Proofs.Paging
import QueryFilter.Proofs.Schemaless
import QueryFilter.Proofs.Sorting
import QueryFilter.Proofs.Spelling

/-!
# QueryFilter.Proofs.Totality

Which requests have a result, where there is neither a schema nor a configuration.

Of all the steps only the conversion of a piece can fail, and it fails on integers that are spelled
with more digits than are read. Whatever is converted can be combined or left out, listed once,
sorted by and paged.

* `Request.IsPlain`: the raw values are texts, lists of texts, or null.
* `Request.HasOverlong`: some field that has a name is given an integer with too many digits.
* `Schema.contributions_values`: a run converts the pieces for named fields, in order.
* `exists_compile`: a run that converts its pieces has a result.
* `compile_fails_iff_hasOverlong`: a request fails exactly on an integer with too many digits, the
  first of which is its fault.
-/

namespace QueryFilter

namespace Except

variable {ε α β : Type}

/-- A list that is not converted has a first element that is not. -/
theorem mapM_eq_error {f : α → Except ε β} {l : List α} {e : ε} (h : l.mapM f = .error e) :
    ∃ before a after, l = before ++ a :: after ∧ (∀ b ∈ before, ∃ c, f b = .ok c) ∧
      f a = .error e := by
  induction l with
  | nil => exact nomatch h
  | cons first rest ih =>
      rw [List.mapM_cons] at h
      cases hfirst : f first with
      | error fault =>
          rw [hfirst] at h
          obtain rfl := Except.error.inj h
          exact ⟨[], first, rest, rfl, nofun, hfirst⟩
      | ok c =>
          rw [hfirst] at h
          cases hrest : rest.mapM f with
          | error fault =>
              change (rest.mapM f >>= _) = _ at h
              rw [hrest] at h
              obtain rfl := Except.error.inj h
              obtain ⟨before, a, after, rfl, hbefore, ha⟩ := ih hrest
              refine ⟨first :: before, a, after, rfl, fun b hb => ?_, ha⟩
              rcases List.mem_cons.mp hb with rfl | hb
              · exact ⟨c, hfirst⟩
              · exact hbefore b hb
          | ok cs =>
              change (rest.mapM f >>= _) = _ at h
              rw [hrest] at h
              exact nomatch h

/-- A list is converted element by element: each element is, and nothing else. -/
theorem mapM_eq_ok {f : α → Except ε β} {l : List α} {bs : List β} (h : l.mapM f = .ok bs) :
    (∀ a ∈ l, ∃ b, f a = .ok b) ∧ ∀ b ∈ bs, ∃ a ∈ l, f a = .ok b := by
  induction l generalizing bs with
  | nil =>
      obtain rfl := Except.ok.inj h
      exact ⟨nofun, nofun⟩
  | cons first rest ih =>
      rw [List.mapM_cons] at h
      obtain ⟨c, hc, h⟩ := bind_eq_ok h
      obtain ⟨cs, hcs, h⟩ := bind_eq_ok h
      obtain rfl := Except.ok.inj h
      obtain ⟨hrest, hcs⟩ := ih hcs
      constructor
      · intro a ha
        rcases List.mem_cons.mp ha with rfl | ha
        · exact ⟨c, hc⟩
        · exact hrest a ha
      · intro b hb
        rcases List.mem_cons.mp hb with rfl | hb
        · exact ⟨first, List.mem_cons_self, hc⟩
        · obtain ⟨a, ha, hab⟩ := hcs b hb
          exact ⟨a, List.mem_cons_of_mem _ ha, hab⟩

end Except

/-! ## Plain values -/

/-- A raw value as a request has it: null, a text, or texts. -/
inductive PlainValue : Value → Prop where
  | null : PlainValue .null
  | text (s : String) : PlainValue (.text s)
  | list (texts : List String) : PlainValue (.list (texts.map .text))

/-- A request whose raw values are plain. -/
def Request.IsPlain (request : Request) : Prop := ∀ pair ∈ request, PlainValue pair.2

/-- A piece of a plain value: null or a text. -/
inductive PlainPiece : Value → Prop where
  | null : PlainPiece .null
  | text (s : String) : PlainPiece (.text s)

/-- A token of a plain value carries a plain value. -/
theorem PlainValue.token {v : Value} (h : PlainValue v) (key : String) :
    PlainValue (Token.read key v).value := by
  rcases Token.value_read key v with hv | hv | ⟨s, hv⟩
  · rw [hv]
    exact .null
  · rw [hv]
    exact h
  · rw [hv]
    exact .text s

/-- The pieces of a plain value are plain. -/
theorem PlainValue.pieces {v : Value} (h : PlainValue v) (op : Operator) :
    ∀ piece ∈ rawPieces op v, PlainPiece piece := by
  intro piece hpiece
  cases h with
  | null =>
      rw [List.mem_singleton.mp hpiece]
      exact .null
  | text s =>
      unfold rawPieces at hpiece
      dsimp only at hpiece
      split at hpiece
      next =>
        rw [List.mem_singleton.mp hpiece]
        exact .text _
      next =>
        obtain ⟨cs, -, rfl⟩ := List.mem_map.mp hpiece
        exact .text _
  | list texts =>
      obtain ⟨v, hv, hpiece⟩ := List.mem_flatMap.mp hpiece
      obtain ⟨s, -, rfl⟩ := List.mem_map.mp hv
      obtain ⟨cs, -, rfl⟩ := List.mem_map.mp hpiece
      exact .text _

theorem Request.IsPlain.pieces {request : Request} (h : request.IsPlain) (name : String)
    (op : Operator) : ∀ piece ∈ request.pieces name op, PlainPiece piece := by
  intro piece hpiece
  obtain ⟨pair, hpair, -, -, hmem⟩ := Request.mem_pieces.mp hpiece
  exact ((h pair hpair).token pair.1).pieces op piece hmem

/-! ## Conversion -/

/-- A plain piece that is converted is a number, a text that spells none, or null. -/
theorem PlainPiece.converted {v w : Value} (h : PlainPiece v) (hw : convertPiece v = .ok w) :
    Converted w := by
  cases h with
  | null =>
      obtain rfl := Except.ok.inj hw
      exact .null
  | text s =>
      rw [convertPiece_text] at hw
      cases hread : readNumber s with
      | error fault =>
          rw [hread] at hw
          exact nomatch hw
      | ok n? =>
          rw [hread] at hw
          obtain rfl := Except.ok.inj hw
          cases n? with
          | none => exact .text ((readNumber_strip s).trans hread)
          | some n => exact .number n

/-- The conversion of a piece fails on integers with too many digits only. -/
theorem convertPiece_eq_error_iff {v : Value} {fault : Fault} :
    convertPiece v = .error fault ↔
      ∃ s count, v = .text s ∧ SpellsOverlong s count ∧ fault = .tooManyDigits count := by
  cases v with
  | text s =>
      have hread : convertPiece (.text s) = .error fault ↔ readNumber s = .error fault := by
        rw [convertPiece_text]
        cases readNumber s <;> simp [Except.map]
      rw [hread, readNumber_eq_error_iff]
      simp
  | _ =>
      constructor
      · exact nofun
      · intro hgiven
        obtain ⟨s, count, hs, -⟩ := hgiven
        exact nomatch hs

/-- The pieces that a request gives for fields that have a name, in order. -/
def Request.allPieces (request : Request) : List Value :=
  request.flatMap fun pair =>
    let t := Token.read pair.1 pair.2
    if t.name = "" then [] else rawPieces t.operator t.value

theorem Request.mem_allPieces {request : Request} {v : Value} :
    v ∈ request.allPieces ↔ ∃ pair ∈ request, (Token.read pair.1 pair.2).name ≠ "" ∧
      v ∈ rawPieces (Token.read pair.1 pair.2).operator (Token.read pair.1 pair.2).value := by
  simp only [Request.allPieces, List.mem_flatMap]
  refine exists_congr fun pair => and_congr_right fun _ => ?_
  split
  next h => simp [h]
  next h => simp [h]

theorem Schema.contribution?_values (cfg : Config) (pair : String × Value) :
    ((({} : Schema).contribution? cfg pair).result.map fun c =>
      c.toList.flatMap Contribution.values) = (Request.allPieces [pair]).mapM convertPiece := by
  rw [Schema.contribution?_schemaless]
  simp only [Request.allPieces, List.flatMap_cons, List.flatMap_nil, List.append_nil]
  generalize Token.read pair.1 pair.2 = t
  by_cases ht : t.name = ""
  · rw [if_pos ht, if_pos ht]
    rfl
  · rw [if_neg ht, if_neg ht, Token.contribution?_schemaless]
    show _ = t.convert
    cases t.convert with
    | error fault => rfl
    | ok values => cases values <;> simp [Except.map]

/-- A run converts the pieces for the fields that have a name, in order. -/
theorem Schema.contributions_values (cfg : Config) (request : Request) :
    ((({} : Schema).contributions cfg request).result.map fun cs =>
      cs.flatMap Contribution.values) = request.allPieces.mapM convertPiece := by
  induction request with
  | nil => rfl
  | cons pair rest ih =>
      have hsplit : Request.allPieces (pair :: rest) =
          Request.allPieces [pair] ++ Request.allPieces rest := by
        simp [Request.allPieces]
      rw [hsplit, List.mapM_append, ← contribution?_values cfg pair, ← ih, contributions,
        Logged.result_bind]
      cases (({} : Schema).contribution? cfg pair).result with
      | error fault => rfl
      | ok c =>
          show ((({} : Schema).contributions cfg rest >>= fun more =>
            pure (c.toList ++ more)).result.map _) = _
          rw [Logged.result_bind]
          cases (({} : Schema).contributions cfg rest).result with
          | error fault => rfl
          | ok more => exact congrArg Except.ok List.flatMap_append

/-! ## Runs that convert their pieces -/

section Runs

variable {request : Request} {cs : List Contribution}

/-- What a plain request lists for a field has been converted. -/
theorem converted_of_mem_gathered (hplain : request.IsPlain)
    (hcs : (({} : Schema).contributions [] request).result = .ok cs) {name : String}
    (hname : name ≠ "") (op : ListOperator) :
    ∀ v ∈ ((Accumulator.gathered (contributionsTo name cs)).collected op).getD [],
      Converted v := by
  intro v hv
  rw [Accumulator.collected_gathered] at hv
  obtain ⟨piece, hpiece, hconvert⟩ := (Except.mapM_eq_ok (mapM_pieces hname hcs _)).2 v hv
  exact (hplain.pieces name (.collect op) piece hpiece).converted hconvert

/-- The sort of a plain request is settled. -/
theorem exists_settleField_sort (hplain : request.IsPlain)
    (hcs : (({} : Schema).contributions [] request).result = .ok cs) :
    ∃ kept, (Matrix.settleField {} [] (.text FieldName.sort)
        (Accumulator.gathered (contributionsTo FieldName.sort cs))).result = .ok kept ∧
      ∀ b ∈ kept, Alternates false (b.eq.getD []) :=
  Matrix.settleField_sort [] (converted_of_mem_gathered hplain hcs (by decide) .eq)

/-- Every field of a plain request is settled. -/
theorem exists_settle_gathered (hplain : request.IsPlain)
    (hcs : (({} : Schema).contributions [] request).result = .ok cs) :
    ∃ settled, (Matrix.settle {} [] (cs.foldl Matrix.grow [])).result = .ok settled := by
  refine Matrix.exists_settle fun e he => ?_
  have htexts : ∀ c ∈ cs, ∃ name, c.name = .text name :=
    fun _ hc => Schema.exists_text_of_mem_contributions hcs hc
  obtain ⟨name, -, rfl⟩ := (Matrix.mem_gathered_iff htexts).mp he
  cases hsort : FieldName.isSort (.text name) with
  | false =>
      rw [Matrix.settleField_of_not_sort {} [] hsort]
      exact ⟨_, rfl⟩
  | true =>
      obtain rfl : FieldName.sort = name := (Value.text.inj (Value.text_beq_iff.mp hsort)).symm
      obtain ⟨kept, hkept, -⟩ := exists_settleField_sort hplain hcs
      exact ⟨kept, hkept⟩

/-- What a plain request is to be sorted by has a mapping. -/
theorem exists_sort_settled (hplain : request.IsPlain)
    (hcs : (({} : Schema).contributions [] request).result = .ok cs) {settled : Matrix}
    (hsettled : (Matrix.settle {} [] (cs.foldl Matrix.grow [])).result = .ok settled) :
    ∃ values, equalTo settled.criteria FieldName.sort = .ok (.list values) ∧
      ∃ sort, sortMapping values = .ok sort := by
  obtain ⟨b, hb, hfind⟩ := Matrix.exists_find?_criteria FieldName.sort settled
  refine ⟨_, equalTo_eq hfind, sortMapping_of_alternates ?_⟩
  rcases hb with rfl | hb
  · exact .nil
  · -- the entry was settled from what was gathered for the sort
    obtain ⟨a, ha, hkept⟩ := Matrix.mem_of_mem_settle hsettled (Mapping.mem_of_mem_allAt hb)
    have hmem := Mapping.mem_allAt_of_mem ha
    rw [Matrix.allAt_gathered] at hmem
    split at hmem
    next => exact nomatch hmem
    next =>
      obtain rfl := List.mem_singleton.mp hmem
      obtain ⟨kept, hgathered, halternates⟩ := exists_settleField_sort hplain hcs
      exact halternates b (Except.ok.inj (hgathered.symm.trans hkept))

/-- A plain request whose pieces are converted has a result. -/
theorem exists_compile (hplain : request.IsPlain)
    (hcs : (({} : Schema).contributions [] request).result = .ok cs) (fallback : Value) :
    ∃ result, (compile {} fallback request []).result = .ok result := by
  obtain ⟨settled, hsettled⟩ := exists_settle_gathered hplain hcs
  obtain ⟨_, -, hno⟩ := Matrix.exists_find?_criteria FieldName.pageNo settled
  obtain ⟨_, -, hsize⟩ := Matrix.exists_find?_criteria FieldName.pageSize settled
  obtain ⟨values, hsort, hmapping⟩ := exists_sort_settled hplain hcs hsettled
  obtain ⟨p, hp⟩ := Pagination.exists_ofQuery (equalTo_eq hno) (equalTo_eq hsize) hsort hmapping
    false fallback
  refine ⟨assemble (filterOf settled.criteria) [] p, ?_⟩
  rw [compile_schemaless_result, hcs]
  show ((Matrix.settle {} [] (cs.foldl Matrix.grow [])).result >>= _) = _
  rw [hsettled]
  show (Pagination.ofQuery settled.criteria [] false fallback >>= _) = _
  rw [hp]
  rfl

end Runs

/-! ## Requests -/

/-- A plain request fails where the conversion of its pieces does. -/
theorem compile_eq_error_iff {request : Request} (hplain : request.IsPlain) {fallback : Value}
    {fault : Fault} : (compile {} fallback request []).result = .error fault ↔
      request.allPieces.mapM convertPiece = .error fault := by
  rw [← Schema.contributions_values []]
  cases hcs : (({} : Schema).contributions [] request).result with
  | error first =>
      rw [compile_schemaless_result, hcs]
      exact ⟨fun h => congrArg Except.error (Except.error.inj h),
        fun h => congrArg Except.error (Except.error.inj h)⟩
  | ok cs =>
      obtain ⟨result, hresult⟩ := exists_compile hplain hcs fallback
      rw [hresult]
      exact ⟨nofun, nofun⟩

/-- Some field that has a name is given an integer with more digits than are read. -/
def Request.HasOverlong (request : Request) : Prop :=
  ∃ pair ∈ request, (Token.read pair.1 pair.2).name ≠ "" ∧ ∃ s count,
    .text s ∈ rawPieces (Token.read pair.1 pair.2).operator (Token.read pair.1 pair.2).value ∧
      SpellsOverlong s count

theorem Request.hasOverlong_iff {request : Request} :
    request.HasOverlong ↔ ∃ s count, .text s ∈ request.allPieces ∧ SpellsOverlong s count := by
  simp only [Request.mem_allPieces]
  constructor
  · intro hgiven
    obtain ⟨pair, hpair, hname, s, count, hs, hlong⟩ := hgiven
    exact ⟨s, count, ⟨pair, hpair, hname, hs⟩, hlong⟩
  · intro hgiven
    obtain ⟨s, count, ⟨pair, hpair, hname, hs⟩, hlong⟩ := hgiven
    exact ⟨pair, hpair, hname, s, count, hs, hlong⟩

/-- The fault of a plain request is the first integer with too many digits. -/
theorem firstOverlong_of_error {request : Request} (hplain : request.IsPlain) {fallback : Value}
    {fault : Fault} (h : (compile {} fallback request []).result = .error fault) :
    ∃ before s after count, request.allPieces = before ++ .text s :: after ∧
      SpellsOverlong s count ∧ fault = .tooManyDigits count ∧
      ∀ t n, .text t ∈ before → ¬SpellsOverlong t n := by
  obtain ⟨before, piece, after, hpieces, hbefore, hpiece⟩ :=
    Except.mapM_eq_error ((compile_eq_error_iff hplain).mp h)
  obtain ⟨s, count, rfl, hlong, rfl⟩ := convertPiece_eq_error_iff.mp hpiece
  refine ⟨before, s, after, count, hpieces, hlong, rfl, fun t n ht hlong => ?_⟩
  obtain ⟨v, hv⟩ := hbefore _ ht
  rw [convertPiece_eq_error_iff.mpr ⟨t, n, rfl, hlong, rfl⟩] at hv
  exact nomatch hv

theorem exists_error_of_hasOverlong {request : Request} (hplain : request.IsPlain)
    (fallback : Value) (h : request.HasOverlong) :
    ∃ fault, (compile {} fallback request []).result = .error fault := by
  obtain ⟨s, count, hs, hlong⟩ := Request.hasOverlong_iff.mp h
  cases hmap : request.allPieces.mapM convertPiece with
  | error fault => exact ⟨fault, (compile_eq_error_iff hplain).mpr hmap⟩
  | ok values =>
      obtain ⟨v, hv⟩ := (Except.mapM_eq_ok hmap).1 _ hs
      rw [convertPiece_eq_error_iff.mpr ⟨s, count, rfl, hlong, rfl⟩] at hv
      exact nomatch hv

/-- **When a request fails.** A plain request fails exactly when some field that has a name is given
an integer with more digits than are read, and its fault is the first one of these. In every other
case it has a result. -/
theorem compile_fails_iff_hasOverlong {request : Request} (hplain : request.IsPlain)
    (fallback : Value) :
    ((∃ fault, (compile {} fallback request []).result = .error fault) ↔ request.HasOverlong) ∧
      (∀ fault, (compile {} fallback request []).result = .error fault →
        ∃ before s after count, request.allPieces = before ++ .text s :: after ∧
          SpellsOverlong s count ∧ fault = .tooManyDigits count ∧
          ∀ t n, .text t ∈ before → ¬SpellsOverlong t n) ∧
      (¬request.HasOverlong →
        ∃ result, (compile {} fallback request []).result = .ok result) := by
  have hfails : (∃ fault, (compile {} fallback request []).result = .error fault) ↔
      request.HasOverlong := by
    refine ⟨fun hgiven => ?_, exists_error_of_hasOverlong hplain fallback⟩
    obtain ⟨fault, h⟩ := hgiven
    obtain ⟨before, s, after, count, hpieces, hlong, -⟩ := firstOverlong_of_error hplain h
    exact Request.hasOverlong_iff.mpr
      ⟨s, count, hpieces ▸ List.mem_append_right before List.mem_cons_self, hlong⟩
  refine ⟨hfails, fun fault h => firstOverlong_of_error hplain h, fun hnone => ?_⟩
  cases hresult : (compile {} fallback request []).result with
  | ok result => exact ⟨result, rfl⟩
  | error fault => exact absurd (hfails.mp ⟨fault, hresult⟩) hnone

/-- One digit more than are read. -/
def longDigits : List Char := List.replicate (Numeral.maxIntegerDigits + 1) '7'

/-- A list with an integer of so many digits. -/
def longCodes : Value := .list [.text "a", .text (String.ofList ('-' :: longDigits))]

/-- A sort with a token out of place, a bound, and an integer that is too long. -/
def longRequest : Request :=
  [("sort", .text "name|2|-1"), ("price>9", .null), ("code!", longCodes)]

theorem eq_of_mem_longDigits {c : Char} (h : c ∈ '-' :: longDigits) : c = '-' ∨ c = '7' := by
  rcases List.mem_cons.mp h with rfl | h
  · exact .inl rfl
  · exact .inr (List.eq_of_mem_replicate h)

theorem spellsOverlong_longDigits :
    SpellsOverlong (String.ofList ('-' :: longDigits)) (Numeral.maxIntegerDigits + 1) := by
  have hdigits : IsDigits longDigits := by
    refine ⟨List.cons_ne_nil _ _, fun c hc => ?_⟩
    rw [List.eq_of_mem_replicate hc]
    decide
  have htrim : Text.trim ('-' :: longDigits) = '-' :: longDigits := by
    refine Text.trim_of_isTrimmed (Text.isTrimmed_of_forall fun c hc => ?_)
    rcases eq_of_mem_longDigits hc with rfl | rfl <;> decide
  refine ⟨['-'], longDigits, .minus, hdigits, ?_, List.length_replicate, Nat.lt_succ_self _⟩
  rw [String.toList_ofList, htrim]
  rfl

theorem longRequest_fails :
    longRequest.IsPlain ∧ longRequest.HasOverlong ∧ ∃ count,
      (compile {} (.int 1) longRequest []).result = .error (.tooManyDigits count) := by
  have hplain : longRequest.IsPlain := by
    intro pair hpair
    simp only [longRequest, List.mem_cons, List.not_mem_nil, or_false] at hpair
    rcases hpair with rfl | rfl | rfl
    · exact .text _
    · exact .null
    · exact .list ["a", String.ofList ('-' :: longDigits)]
  have hread : Token.read "code!" longCodes = ⟨"code", longCodes, .ne⟩ := by rfl
  have hpiece : .text (String.ofList ('-' :: longDigits)) ∈ rawPieces .ne longCodes := by
    refine List.mem_flatMap.mpr ⟨_, List.mem_cons_of_mem _ List.mem_cons_self, ?_⟩
    have hmark : '|' ∉ '-' :: longDigits := by
      intro hmem
      rcases eq_of_mem_longDigits hmem with h | h <;> exact absurd h (by decide)
    unfold elementPieces pipePieces
    dsimp only
    rw [String.toList_ofList, Text.splitAt_of_not_mem hmark]
    exact List.mem_singleton_self _
  have hlong : longRequest.HasOverlong := by
    refine ⟨("code!", longCodes), List.mem_of_getLast? rfl, ?_⟩
    rw [hread]
    exact ⟨by decide, _, _, hpiece, spellsOverlong_longDigits⟩
  obtain ⟨hfails, hfirst, -⟩ := compile_fails_iff_hasOverlong hplain (.int 1)
  obtain ⟨fault, hfault⟩ := hfails.mpr hlong
  obtain ⟨before, s, after, count, -, -, rfl, -⟩ := hfirst fault hfault
  exact ⟨hplain, hlong, count, hfault⟩

end QueryFilter
