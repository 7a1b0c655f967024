import QueryFilter.Request
import QueryFilter.Proofs.Mapping

/-!
# QueryFilter.Proofs.Gathering

What a request gathers, as a fold over the contributions of its pairs.

Whether a pair is accepted, and which values it carries, does not depend on what has been gathered
before. So a run splits into reading each pair on its own (`contributions`) and adding what was
read, one contribution after the other (`Matrix.grow`):

* `gatherPairs_result`: the matrix of a run is the fold of its contributions.
* `gatherPairs_clean_iff`: a run reports nothing when neither reading nor adding does.
* `allAt_gathered`, `field_gathered`: the fold seen at one field needs the contributions to that field
  only.
* `collected_gathered`, `bound_gathered`: the fold seen at one operator.
-/

namespace QueryFilter

/-- What succeeds has succeeded in both of its steps. -/
theorem Except.bind_eq_ok {ε α β : Type} {first : Except ε α} {next : α → Except ε β} {b : β}
    (h : (first >>= next) = .ok b) : ∃ a, first = .ok a ∧ next a = .ok b := by
  cases first with
  | error fault => exact nomatch h
  | ok a => exact ⟨a, rfl, h⟩

/-- A list is converted where each of its elements is. -/
theorem Except.mapM_of_forall {ε α β : Type} {f : α → Except ε β} {g : α → β} {l : List α}
    (h : ∀ a ∈ l, f a = .ok (g a)) : l.mapM f = .ok (l.map g) := by
  induction l with
  | nil => rfl
  | cons a rest ih =>
      rw [List.mapM_cons, h a List.mem_cons_self, ih fun b hb => h b (List.mem_cons_of_mem _ hb)]
      rfl

/-- A value that may be a key is that key. -/
theorem Value.asKey_eq_ok {v key : Value} (h : v.asKey = .ok key) : key = v := by
  unfold Value.asKey at h
  split at h
  · exact (Except.ok.inj h).symm
  · exact nomatch h

namespace Logged

variable {α β : Type}

@[simp] theorem liftM_ok (a : α) :
    (liftM (Except.ok a : Except Fault α) : Logged α) = ⟨[], .ok a⟩ := rfl

@[simp] theorem liftM_error (fault : Fault) :
    (liftM (Except.error fault : Except Fault α) : Logged α) = ⟨[], .error fault⟩ := rfl

instance : LawfulMonad Logged := .mk' _
  (by
    intro α hgiven
    obtain ⟨ds, _ | a⟩ := hgiven
    · rfl
    · simp [Functor.map, Logged.bind, Logged.pure])
  (fun _ _ => rfl)
  (by
    intro α β γ hgiven f g
    obtain ⟨ds, _ | a⟩ := hgiven
    · rfl
    · simp only [bind_ok]
      obtain ⟨es, _ | b⟩ := f a
      · rfl
      · simp)

theorem result_bind (x : Logged α) (f : α → Logged β) :
    (x >>= f).result = x.result >>= fun a => (f a).result := by
  obtain ⟨ds, _ | a⟩ := x <;> rfl

/-- A result is reached through the first computation's result. -/
theorem result_bind_ok {x : Logged α} {f : α → Logged β} {b : β}
    (h : (x >>= f).result = .ok b) : ∃ a, x.result = .ok a ∧ (f a).result = .ok b := by
  rw [result_bind] at h
  cases hx : x.result with
  | error fault => rw [hx] at h; exact nomatch h
  | ok a => rw [hx] at h; exact ⟨a, rfl, h⟩

/-- Where the first computation succeeds, the second one's reports follow its own. -/
theorem diagnostics_bind_of_ok {x : Logged α} {a : α} (h : x.result = .ok a) (f : α → Logged β) :
    (x >>= f).diagnostics = x.diagnostics ++ (f a).diagnostics := by
  obtain ⟨ds, _ | b⟩ := x
  · exact nomatch h
  · obtain rfl := Except.ok.inj h
    rfl

/-- A computation reaches its result without a report. -/
def Clean (x : Logged α) (a : α) : Prop := x.diagnostics = [] ∧ x.result = .ok a

theorem clean_iff {x : Logged α} {a : α} : x.Clean a ↔ x = ⟨[], .ok a⟩ := by
  obtain ⟨ds, r⟩ := x
  simp [Clean]

/-- Two computations in a row report nothing when each of them does. -/
theorem clean_bind_iff {x : Logged α} {f : α → Logged β} {b : β} :
    (x >>= f).Clean b ↔ ∃ a, x.Clean a ∧ (f a).Clean b := by
  obtain ⟨ds, _ | a⟩ := x
  · simp [Clean]
  · simp only [bind_ok, Clean, List.append_eq_nil_iff, Except.ok.injEq]
    constructor
    · intro hgiven
      obtain ⟨⟨hds, hf⟩, hr⟩ := hgiven
      exact ⟨a, ⟨hds, rfl⟩, hf, hr⟩
    · intro hgiven
      obtain ⟨a', ⟨hds, rfl⟩, hf, hr⟩ := hgiven
      exact ⟨⟨hds, hf⟩, hr⟩

@[simp] theorem clean_mk_iff {ds : List Diagnostic} {a b : α} :
    (⟨ds, .ok a⟩ : Logged α).Clean b ↔ ds = [] ∧ a = b := by
  simp [Clean]

@[simp] theorem clean_report_iff {ds : List Diagnostic} {a b : α} :
    (report ds a).Clean b ↔ ds = [] ∧ a = b :=
  clean_mk_iff

end Logged

/-! ## Contributions -/

/-- What an accepted pair adds: converted values, of which there is at least one, to an operator of
a field. -/
structure Contribution where
  name : Value
  operator : Operator
  values : List Value

/-- What an accepted token adds; nothing, if it carries no value. -/
def Token.contribution? (s : Schema) (name : Value) (d : Descriptor) (token : Token) :
    Except Fault (Option Contribution) := do
  let values ← readValues s.conversions (d.coercion?.getD .standard) token.operator token.value
  if values.isEmpty then return none
  let key ← name.asKey
  return some ⟨key, token.operator, values⟩

/-- What a pair adds, or the report why it is left out. -/
def Schema.contribution? (s : Schema) (cfg : Config) (pair : String × Value) :
    Logged (Option Contribution) := do
  let token := Token.read pair.1 pair.2
  let name ← s.normalize (.text token.name) cfg
  match ← s.check name token.operator cfg with
  | none => return none
  | some d => token.contribution? s name d

/-- The field that a pair is for, by the name that the schema knows it by. -/
def Schema.fieldOf (s : Schema) (cfg : Config) (pair : String × Value) : Except Fault Value :=
  s.normalize (.text (Token.read pair.1 pair.2).name) cfg

/-- What the pairs of a request add, in order. -/
def Schema.contributions (s : Schema) (cfg : Config) : Request → Logged (List Contribution)
  | [] => return []
  | pair :: rest => do
      let c ← s.contribution? cfg pair
      let more ← s.contributions cfg rest
      return c.toList ++ more

/-- Where a contribution comes from: the token of its pair, accepted by the schema. -/
theorem Schema.contribution?_inv {s : Schema} {cfg : Config} {pair : String × Value}
    {c : Contribution} (h : (s.contribution? cfg pair).result = .ok (some c)) :
    ∃ d, s.fieldOf cfg pair = .ok c.name ∧
      c.operator = (Token.read pair.1 pair.2).operator ∧
      (s.check c.name c.operator cfg).result = .ok (some d) ∧
      readValues s.conversions (d.coercion?.getD .standard) c.operator
        (Token.read pair.1 pair.2).value = .ok c.values ∧ c.values ≠ [] := by
  unfold Schema.contribution? at h
  obtain ⟨name, hname, h⟩ := Logged.result_bind_ok h
  obtain ⟨_ | d, hd, h⟩ := Logged.result_bind_ok h
  · -- the schema rejects the pair
    exact nomatch h
  · change Token.contribution? s name d _ = _ at h
    unfold Token.contribution? at h
    obtain ⟨values, hvalues, h⟩ := Except.bind_eq_ok h
    by_cases he : values.isEmpty = true
    · rw [if_pos he] at h
      exact nomatch h
    · rw [if_neg he] at h
      obtain ⟨key, hkey, h⟩ := Except.bind_eq_ok h
      obtain rfl := Option.some.inj (Except.ok.inj h)
      obtain rfl := Value.asKey_eq_ok hkey
      exact ⟨d, hname, rfl, hd, hvalues, by simpa using he⟩

/-- Every contribution of a run comes from one of its pairs. -/
theorem Schema.mem_contributions {s : Schema} {cfg : Config} {request : Request}
    {cs : List Contribution} (h : (s.contributions cfg request).result = .ok cs)
    {c : Contribution} (hc : c ∈ cs) :
    ∃ pair ∈ request, (s.contribution? cfg pair).result = .ok (some c) := by
  induction request generalizing cs with
  | nil =>
      obtain rfl := Except.ok.inj h
      exact nomatch hc
  | cons pair rest ih =>
      obtain ⟨first, hfirst, h⟩ := Logged.result_bind_ok h
      obtain ⟨more, hmore, h⟩ := Logged.result_bind_ok h
      obtain rfl := Except.ok.inj h
      rcases List.mem_append.mp hc with hc | hc
      · obtain rfl := Option.mem_toList.mp hc
        exact ⟨pair, List.mem_cons_self, hfirst⟩
      · obtain ⟨p, hp, hpc⟩ := ih hmore hc
        exact ⟨p, List.mem_cons_of_mem _ hp, hpc⟩

namespace Matrix

/-- A contribution added. -/
def grow (m : Matrix) (c : Contribution) : Matrix := (m.add c.name c.operator c.values).matrix

/-- The reports of adding contributions one after the other. -/
def growReports : Matrix → List Contribution → List Diagnostic
  | _, [] => []
  | m, c :: cs => (m.add c.name c.operator c.values).diagnostics ++ growReports (m.grow c) cs

/-- A contribution added with its reports, if there is one. -/
def growBy (m : Matrix) : Option Contribution → Logged Matrix
  | none => return m
  | some c => .report (m.add c.name c.operator c.values).diagnostics (m.grow c)

/-- Gathering an accepted token is reading what it adds and adding that. -/
theorem gather_eq (s : Schema) (name : Value) (d : Descriptor) (token : Token) (m : Matrix) :
    (do
      let g ← m.gather s.conversions d name token.value token.operator
      Logged.report g.diagnostics g.matrix) =
    (liftM (token.contribution? s name d) : Logged (Option Contribution)) >>= m.growBy := by
  unfold gather Token.contribution?
  cases readValues s.conversions (d.coercion?.getD .standard) token.operator token.value with
  | error fault => rfl
  | ok values =>
      by_cases he : values.isEmpty = true
      · simp [bind, Except.bind, he, pure, Except.pure, Logged.bind, growBy, Logged.report,
          Logged.pure]
      · cases hk : name.asKey with
        | error fault => simp [bind, Except.bind, he, Logged.bind]
        | ok key =>
            simp [bind, Except.bind, he, pure, Except.pure, Logged.bind, growBy, Logged.report,
              grow]

end Matrix

/-- One step of a run: reading the pair does not look at the matrix. -/
theorem gatherPair_eq (s : Schema) (cfg : Config) (m : Matrix) (pair : String × Value) :
    gatherPair s cfg m pair = s.contribution? cfg pair >>= m.growBy := by
  unfold gatherPair Schema.contribution?
  simp only [bind_assoc]
  congr 1
  funext name
  congr 1
  funext d
  cases d with
  | none => rfl
  | some d => exact Matrix.gather_eq s name d _ m

/-! ## Runs -/

/-- A contribution, if there is one, is a run of one or none. -/
theorem Matrix.growBy_eq (m : Matrix) (c : Option Contribution) :
    m.growBy c = ⟨m.growReports c.toList, .ok (c.toList.foldl grow m)⟩ := by
  cases c with
  | none => rfl
  | some c => simp [growBy, growReports, Logged.report]

/-- The matrix of a run is the fold of what its pairs add. -/
theorem gatherPairs_result (s : Schema) (cfg : Config) (request : Request) (m : Matrix) :
    (gatherPairs s cfg m request).result =
      (s.contributions cfg request).result.map fun cs => cs.foldl Matrix.grow m := by
  induction request generalizing m with
  | nil => rfl
  | cons pair rest ih =>
      simp only [gatherPairs, Schema.contributions, gatherPair_eq, Logged.result_bind]
      cases (s.contribution? cfg pair).result with
      | error fault => rfl
      | ok c =>
          simp only [bind, Except.bind, Matrix.growBy_eq, ih]
          cases (s.contributions cfg rest).result with
          | error fault => rfl
          | ok more => simp [Except.map]

theorem Matrix.growReports_append (m : Matrix) (cs ds : List Contribution) :
    m.growReports (cs ++ ds) = m.growReports cs ++ (cs.foldl grow m).growReports ds := by
  induction cs generalizing m with
  | nil => rfl
  | cons c cs ih => simp [growReports, ih]

/-- A run reports nothing exactly when neither reading its pairs nor adding what they carry does. -/
theorem gatherPairs_clean_iff {s : Schema} {cfg : Config} {request : Request} {m m' : Matrix} :
    (gatherPairs s cfg m request).Clean m' ↔
      ∃ cs, (s.contributions cfg request).Clean cs ∧ m.growReports cs = [] ∧
        cs.foldl Matrix.grow m = m' := by
  induction request generalizing m with
  | nil =>
      constructor
      · intro h
        exact ⟨[], by simp [Schema.contributions], rfl, by simpa [gatherPairs] using h⟩
      · intro hgiven
        obtain ⟨cs, hcs, -, rfl⟩ := hgiven
        obtain rfl : [] = cs := by simpa [Schema.contributions] using hcs
        simp [gatherPairs]
  | cons pair rest ih =>
      simp only [gatherPairs, Schema.contributions, gatherPair_eq, Logged.clean_bind_iff, ih,
        Matrix.growBy_eq, Logged.pure_eq, Logged.clean_mk_iff, true_and]
      constructor
      · intro hgiven
        obtain ⟨_, ⟨c, hc, hrep, rfl⟩, more, hmore, hreps, rfl⟩ := hgiven
        refine ⟨c.toList ++ more, ⟨c, hc, more, hmore, rfl⟩, ?_, List.foldl_append⟩
        rw [Matrix.growReports_append, hrep, hreps]
        rfl
      · intro hgiven
        obtain ⟨_, ⟨c, hc, more, hmore, rfl⟩, hreps, rfl⟩ := hgiven
        rw [Matrix.growReports_append, List.append_eq_nil_iff] at hreps
        exact ⟨_, ⟨c, hc, hreps.1, rfl⟩, more, hmore, hreps.2, List.foldl_append.symm⟩

/-! ## One field -/

/-- Is the contribution to the field of that name? -/
def Contribution.isTo (name : String) (c : Contribution) : Bool := Value.text name == c.name

/-- The contributions to a field, in order. -/
def contributionsTo (name : String) (cs : List Contribution) : List Contribution :=
  cs.filter (Contribution.isTo name)

@[simp] theorem contributionsTo_nil (name : String) : contributionsTo name [] = [] := rfl

theorem contributionsTo_cons_self {name : String} {c : Contribution} (h : c.name = .text name)
    (cs : List Contribution) : contributionsTo name (c :: cs) = c :: contributionsTo name cs :=
  List.filter_cons_of_pos (by rw [Contribution.isTo, h]; exact Value.text_beq_iff.mpr rfl)

theorem contributionsTo_cons_of_ne {name : String} {c : Contribution} (h : c.name ≠ .text name)
    (cs : List Contribution) : contributionsTo name (c :: cs) = contributionsTo name cs :=
  List.filter_cons_of_neg fun he => h (Value.text_beq_iff.mp he)

theorem contributionsTo_append (name : String) (cs ds : List Contribution) :
    contributionsTo name (cs ++ ds) = contributionsTo name cs ++ contributionsTo name ds :=
  List.filter_append cs ds

theorem name_of_mem_contributionsTo {name : String} {c : Contribution} {cs : List Contribution}
    (h : c ∈ contributionsTo name cs) : c ∈ cs ∧ c.name = .text name := by
  obtain ⟨hmem, hto⟩ := List.mem_filter.mp h
  exact ⟨hmem, Value.text_beq_iff.mp hto⟩

/-- A contribution added to what its field has; what cannot be combined changes nothing. -/
def Accumulator.grow (a : Accumulator) (c : Contribution) : Accumulator :=
  (a.add? c.operator c.values).getD a

/-- What contributions to one field gather. -/
def Accumulator.gathered (cs : List Contribution) : Accumulator :=
  cs.foldl Accumulator.grow .empty

namespace Matrix

theorem grow_eq (m : Matrix) (c : Contribution) :
    m.grow c = Mapping.put c.name ((m.field c.name).grow c) m := by
  unfold grow add Accumulator.grow
  dsimp only
  cases (m.field c.name).add? c.operator c.values <;> rfl

theorem add_diagnostics_eq_nil_iff (m : Matrix) (c : Contribution) :
    (m.add c.name c.operator c.values).diagnostics = [] ↔
      ((m.field c.name).add? c.operator c.values).isSome := by
  unfold add
  dsimp only
  cases (m.field c.name).add? c.operator c.values <;> simp

theorem field_text (m : Matrix) (name : String) :
    m.field (.text name) = (Mapping.allAt name m).head?.getD .empty := by
  rw [← Mapping.find?_eq_head?_allAt]
  rfl

/-- A contribution to a field changes the first of what stands under its name. -/
theorem allAt_grow_self {name : String} {c : Contribution} (h : c.name = .text name)
    (m : Matrix) : Mapping.allAt name (m.grow c) =
      (m.field (.text name)).grow c :: (Mapping.allAt name m).tail := by
  rw [grow_eq, h, Mapping.allAt_put_self]

theorem allAt_grow_of_ne {name : String} {c : Contribution} (h : c.name ≠ .text name)
    (m : Matrix) : Mapping.allAt name (m.grow c) = Mapping.allAt name m := by
  rw [grow_eq, Mapping.allAt_put_of_ne h]

theorem field_grow_self {name : String} {c : Contribution} (h : c.name = .text name)
    (m : Matrix) : (m.grow c).field (.text name) = (m.field (.text name)).grow c := by
  rw [field_text, allAt_grow_self h]
  rfl

theorem field_grow_of_ne {name : String} {c : Contribution} (h : c.name ≠ .text name)
    (m : Matrix) : (m.grow c).field (.text name) = m.field (.text name) := by
  rw [field_text, field_text, allAt_grow_of_ne h]

theorem allAt_foldl_grow (name : String) (cs : List Contribution) (m : Matrix)
    {a : Accumulator} (hm : Mapping.allAt name m = [a]) :
    Mapping.allAt name (cs.foldl grow m) =
      [(contributionsTo name cs).foldl Accumulator.grow a] := by
  induction cs generalizing m a with
  | nil => simpa using hm
  | cons c cs ih =>
      by_cases hc : c.name = .text name
      · rw [contributionsTo_cons_self hc, List.foldl_cons, List.foldl_cons]
        apply ih
        rw [allAt_grow_self hc, field_text, hm]
        rfl
      · rw [contributionsTo_cons_of_ne hc, List.foldl_cons]
        exact ih _ (by rw [allAt_grow_of_ne hc, hm])

/-- What a run gathers for a field depends on the contributions to that field alone, and a field
without a contribution is not there. -/
theorem allAt_gathered (name : String) (cs : List Contribution) :
    Mapping.allAt name (cs.foldl grow []) =
      if (contributionsTo name cs).isEmpty then []
      else [Accumulator.gathered (contributionsTo name cs)] := by
  -- the field appears with its first contribution, and from there on it is one accumulator
  suffices h : ∀ m : Matrix, Mapping.allAt name m = [] →
      Mapping.allAt name (cs.foldl grow m) =
        if (contributionsTo name cs).isEmpty then []
        else [Accumulator.gathered (contributionsTo name cs)] from h [] rfl
  induction cs with
  | nil => intro m hm; simpa using hm
  | cons c cs ih =>
      intro m hm
      by_cases hc : c.name = .text name
      · have hfirst : Mapping.allAt name (m.grow c) = [Accumulator.empty.grow c] := by
          rw [allAt_grow_self hc, field_text, hm]
          rfl
        rw [List.foldl_cons, allAt_foldl_grow name cs _ hfirst, contributionsTo_cons_self hc]
        rfl
      · rw [contributionsTo_cons_of_ne hc, List.foldl_cons]
        exact ih _ (by rw [allAt_grow_of_ne hc, hm])

/-- A run gathers for a field what the contributions to it gather, which is nothing if there are
none. -/
theorem field_gathered (name : String) (cs : List Contribution) :
    Matrix.field (.text name) (cs.foldl grow []) =
      Accumulator.gathered (contributionsTo name cs) := by
  rw [field_text, allAt_gathered]
  split
  next hnone => rw [List.isEmpty_iff.mp hnone]; rfl
  next => rfl

end Matrix

/-! ## The fields of a run -/

namespace Matrix

theorem keys_grow (m : Matrix) (c : Contribution) :
    Mapping.keys (m.grow c) =
      if Mapping.hasKey c.name m then Mapping.keys m else Mapping.keys m ++ [c.name] := by
  rw [grow_eq, Mapping.keys_put]

/-- Only the names of contributions become keys. -/
theorem mem_keys_foldl_grow {cs : List Contribution} {m : Matrix} {k : Value}
    (h : k ∈ Mapping.keys (cs.foldl grow m)) : k ∈ Mapping.keys m ∨ ∃ c ∈ cs, c.name = k := by
  induction cs generalizing m with
  | nil => exact .inl h
  | cons c cs ih =>
      rcases ih h with hk | ⟨d, hd, hdk⟩
      · rw [grow_eq] at hk
        rcases Mapping.mem_keys_put hk with hk | hk
        · exact .inr ⟨c, List.mem_cons_self, hk.symm⟩
        · exact .inl hk
      · exact .inr ⟨d, List.mem_cons_of_mem _ hd, hdk⟩

/-- No key of a run is there twice. -/
theorem nodup_keys_foldl_grow {cs : List Contribution}
    (hcs : ∀ c ∈ cs, ∃ name, c.name = .text name) {m : Matrix} (hm : (Mapping.keys m).Nodup) :
    (Mapping.keys (cs.foldl grow m)).Nodup := by
  induction cs generalizing m with
  | nil => exact hm
  | cons c cs ih =>
      refine ih (fun d hd => hcs d (List.mem_cons_of_mem c hd)) ?_
      obtain ⟨name, hname⟩ := hcs c List.mem_cons_self
      rw [keys_grow]
      split
      next => exact hm
      next hnew =>
        rw [hname, Mapping.hasKey_text_iff] at hnew
        rw [hname, List.nodup_append]
        refine ⟨hm, List.pairwise_singleton _ _, fun k hk l hl => ?_⟩
        rw [List.mem_singleton.mp hl]
        intro heq
        subst heq
        exact hnew hk

/-- The matrix of a run holds what was gathered for each field that something was contributed to,
and nothing else. -/
theorem mem_gathered_iff {cs : List Contribution} (hcs : ∀ c ∈ cs, ∃ name, c.name = .text name)
    {e : Value × Accumulator} :
    e ∈ cs.foldl grow [] ↔ ∃ name, contributionsTo name cs ≠ [] ∧
      e = (.text name, Accumulator.gathered (contributionsTo name cs)) := by
  constructor
  · intro he
    -- the key is the name of a contribution, and one entry stands under it
    obtain ⟨k, a⟩ := e
    have hkey : k ∈ Mapping.keys (cs.foldl grow []) := List.mem_map_of_mem he
    rcases mem_keys_foldl_grow hkey with hk | ⟨c, hc, rfl⟩
    · exact nomatch hk
    · obtain ⟨name, hname⟩ := hcs c hc
      rw [hname] at he
      have ha : a ∈ Mapping.allAt name (cs.foldl grow []) := Mapping.mem_allAt_of_mem he
      rw [allAt_gathered] at ha
      split at ha
      next => exact nomatch ha
      next hne =>
        refine ⟨name, fun hnil => hne (by rw [hnil]; rfl), ?_⟩
        rw [hname, List.mem_singleton.mp ha]
  · intro hgiven
    obtain ⟨name, hne, rfl⟩ := hgiven
    refine Mapping.mem_of_mem_allAt ?_
    rw [allAt_gathered, if_neg (by simpa using hne)]
    exact List.mem_singleton_self _

end Matrix

/-! ## One operator -/

/-- The values of each contribution under an operator, in order. -/
def valuesUnder (op : Operator) (cs : List Contribution) : List (List Value) :=
  cs.filterMap fun c => if c.operator = op then some c.values else none

@[simp] theorem valuesUnder_nil (op : Operator) : valuesUnder op [] = [] := rfl

theorem valuesUnder_cons (op : Operator) (c : Contribution) (cs : List Contribution) :
    valuesUnder op (c :: cs) =
      if c.operator = op then c.values :: valuesUnder op cs else valuesUnder op cs := by
  simp only [valuesUnder]
  rw [List.filterMap_cons]
  split <;> simp_all

theorem valuesUnder_append (op : Operator) (cs ds : List Contribution) :
    valuesUnder op (cs ++ ds) = valuesUnder op cs ++ valuesUnder op ds :=
  List.filterMap_append

/-- The bound that is kept of a present bound and new values; the present one, if they have no
common order. -/
def BoundOperator.keep (op : BoundOperator) (current : Value) (values : List Value) : Value :=
  (op.combine? current values).getD current

/-- Bounds that can be combined one after the other are kept so. -/
theorem BoundOperator.foldl_keep_of_foldlM {op : BoundOperator} {v w : Value}
    {lists : List (List Value)} (h : lists.foldlM op.combine? v = some w) :
    lists.foldl op.keep v = w := by
  induction lists generalizing v with
  | nil => simpa using h
  | cons values rest ih =>
      simp only [List.foldlM_cons, Option.bind_eq_bind, Option.bind_eq_some_iff] at h
      obtain ⟨u, hu, hrest⟩ := h
      rw [List.foldl_cons, BoundOperator.keep, hu]
      exact ih hrest

namespace Accumulator

/-- A contribution to a list goes to its end. -/
theorem collected_grow (a : Accumulator) (c : Contribution) (op : ListOperator) :
    (a.grow c).collected op =
      if c.operator = .collect op then some ((a.collected op).getD [] ++ c.values)
      else a.collected op := by
  unfold grow add?
  cases hop : c.operator with
  | collect other =>
      by_cases ho : other = op
      · subst ho
        simp
      · have hne : Operator.collect other ≠ .collect op := fun he => ho (Operator.collect.inj he)
        simp [collected_setCollected_of_ne (Ne.symm ho), hne]
  | bound other => cases hv : other.combine? (a.bound other) c.values <;> simp [hv]

/-- A contribution to a bound is combined with it. -/
theorem bound_grow (a : Accumulator) (c : Contribution) (op : BoundOperator) :
    (a.grow c).bound op =
      if c.operator = .bound op then op.keep (a.bound op) c.values else a.bound op := by
  unfold grow add?
  cases hop : c.operator with
  | collect other => simp
  | bound other =>
      by_cases ho : other = op
      · subst ho
        simp only [BoundOperator.keep]
        cases other.combine? (a.bound other) c.values <;> simp
      · have hne : Operator.bound other ≠ .bound op := fun he => ho (Operator.bound.inj he)
        cases hv : other.combine? (a.bound other) c.values <;>
          simp [hv, bound_setBound_of_ne (Ne.symm ho), hne]

/-- What contributions make of a list: it stays as it is, or what they carry goes to its end. -/
theorem collected_foldl_grow (op : ListOperator) (cs : List Contribution) (a : Accumulator) :
    (cs.foldl grow a).collected op =
      if valuesUnder (.collect op) cs = [] then a.collected op
      else some ((a.collected op).getD [] ++ (valuesUnder (.collect op) cs).flatten) := by
  induction cs generalizing a with
  | nil => rfl
  | cons c cs ih =>
      rw [List.foldl_cons, ih, collected_grow, valuesUnder_cons]
      by_cases hc : c.operator = .collect op
      · rw [if_pos hc, if_pos hc, if_neg (List.cons_ne_nil _ _), Option.getD_some,
          List.flatten_cons, ← List.append_assoc]
        split
        next hnil => rw [hnil, List.flatten_nil, List.append_nil]
        next => rfl
      · rw [if_neg hc, if_neg hc]

theorem bound_foldl_grow (op : BoundOperator) (cs : List Contribution) (a : Accumulator) :
    (cs.foldl grow a).bound op = (valuesUnder (.bound op) cs).foldl op.keep (a.bound op) := by
  induction cs generalizing a with
  | nil => rfl
  | cons c cs ih =>
      rw [List.foldl_cons, ih, bound_grow, valuesUnder_cons]
      split <;> rfl

/-- A gathered list is what was contributed to it, in order; it is there if anything was. -/
theorem collected_gathered_eq (op : ListOperator) (cs : List Contribution) :
    (gathered cs).collected op =
      if valuesUnder (.collect op) cs = [] then none
      else some (valuesUnder (.collect op) cs).flatten := by
  rw [gathered, collected_foldl_grow]
  cases op <;> rfl

theorem collected_gathered (op : ListOperator) (cs : List Contribution) :
    ((gathered cs).collected op).getD [] = (valuesUnder (.collect op) cs).flatten := by
  rw [collected_gathered_eq]
  split
  next hnil => rw [hnil]; rfl
  next => rfl

/-- A gathered bound is what is kept of the values that were contributed to it. -/
theorem bound_gathered (op : BoundOperator) (cs : List Contribution) :
    (gathered cs).bound op = (valuesUnder (.bound op) cs).foldl op.keep .null := by
  rw [gathered, bound_foldl_grow]
  cases op <;> rfl

/-! ## Reports -/

/-- Can contributions be combined with what is there, one after the other? -/
def Takes : Accumulator → List Contribution → Prop
  | _, [] => True
  | a, c :: cs => (a.add? c.operator c.values).isSome ∧ (a.grow c).Takes cs

/-- Only bounds may fail to combine, and each operator's bounds by themselves. -/
theorem takes_iff (a : Accumulator) (cs : List Contribution) :
    a.Takes cs ↔
      ∀ op : BoundOperator, ((valuesUnder (.bound op) cs).foldlM op.combine? (a.bound op)).isSome := by
  induction cs generalizing a with
  | nil => simp [Takes]
  | cons c cs ih =>
      -- only an operator's own values are combined with its bound
      have hstep : ∀ op : BoundOperator,
          (valuesUnder (.bound op) (c :: cs)).foldlM op.combine? (a.bound op) =
            if c.operator = .bound op then
              (op.combine? (a.bound op) c.values).bind fun v =>
                (valuesUnder (.bound op) cs).foldlM op.combine? v
            else (valuesUnder (.bound op) cs).foldlM op.combine? (a.bound op) := by
        intro op
        rw [valuesUnder_cons]
        split <;> simp
      rw [Takes, ih]
      simp only [hstep, bound_grow]
      cases hop : c.operator with
      | collect other => simp [add?]
      | bound other =>
          cases hv : other.combine? (a.bound other) c.values with
          | none =>
              simp only [add?, hv, Option.map_none, Option.isSome_none, Bool.false_eq_true,
                false_and, false_iff]
              intro hall
              simpa [hv] using hall other
          | some v =>
              simp only [add?, hv, Option.map_some, Option.isSome_some, true_and]
              refine forall_congr' fun op => ?_
              by_cases ho : other = op
              · subst ho
                simp [BoundOperator.keep, hv]
              · have hne : Operator.bound other ≠ .bound op := fun he =>
                  ho (Operator.bound.inj he)
                simp [hne]

theorem takes_gathered_iff (cs : List Contribution) :
    Accumulator.empty.Takes cs ↔
      ∀ op : BoundOperator, ((valuesUnder (.bound op) cs).foldlM op.combine? .null).isSome := by
  rw [takes_iff]
  refine forall_congr' fun op => ?_
  cases op <;> exact Iff.rfl

end Accumulator

/-- Adding contributions to fields reports nothing exactly when each field takes its own. -/
theorem Matrix.growReports_eq_nil_iff {cs : List Contribution}
    (hcs : ∀ c ∈ cs, ∃ name, c.name = .text name) (m : Matrix) :
    m.growReports cs = [] ↔ ∀ name, (m.field (.text name)).Takes (contributionsTo name cs) := by
  induction cs generalizing m with
  | nil => simp [growReports, Accumulator.Takes]
  | cons c cs ih =>
      -- the first contribution concerns its owner, all other fields take the same ones as before
      obtain ⟨owner, hc⟩ := hcs c List.mem_cons_self
      rw [growReports, List.append_eq_nil_iff, add_diagnostics_eq_nil_iff,
        ih (fun d hd => hcs d (List.mem_cons_of_mem _ hd)), hc]
      constructor
      · intro hgiven name
        obtain ⟨hadd, hrest⟩ := hgiven
        by_cases hn : c.name = .text name
        · obtain rfl : owner = name := Value.text.inj (hc.symm.trans hn)
          rw [contributionsTo_cons_self hn]
          exact ⟨hadd, field_grow_self hn m ▸ hrest owner⟩
        · rw [contributionsTo_cons_of_ne hn]
          exact field_grow_of_ne hn m ▸ hrest name
      · intro h
        have howner := h owner
        rw [contributionsTo_cons_self hc] at howner
        refine ⟨howner.1, fun name => ?_⟩
        by_cases hn : c.name = .text name
        · obtain rfl : owner = name := Value.text.inj (hc.symm.trans hn)
          rw [field_grow_self hn]
          exact howner.2
        · have hname := h name
          rw [contributionsTo_cons_of_ne hn] at hname
          rw [field_grow_of_ne hn]
          exact hname

end QueryFilter
