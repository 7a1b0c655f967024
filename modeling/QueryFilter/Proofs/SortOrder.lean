import QueryFilter.Default
import QueryFilter.Matrix.Settle
import QueryFilter.Proofs.Gathering
import QueryFilter.Proofs.SortMapping

/-!
# QueryFilter.Proofs.SortOrder

What is read from the tokens of a sort: fields, each with one of the two directions.

* `SortOrder`: fields with directions, in order; `SortOrder.entries` is the mapping of them and
  `SortOrder.values` the list in which they alternate.
* `readSort_inv`: whatever the tokens and the schema, what is read is such an order, and each of its
  fields comes from a token.
* `readSort_values`, `Matrix.settleField_values`: where fields are not looked up, an order is read as
  itself, and the sort of a matrix that holds one is settled already.
* `putSort_values`, `plain_of_sortMapping`: the mapping of an order, which is plain.
-/

namespace QueryFilter

/-- The fields of a sort, each with its direction. -/
abbrev SortOrder := List (Value × Direction)

namespace SortOrder

/-- The fields with their directions as they are written. -/
def entries (order : SortOrder) : Mapping Value := order.map fun e => (e.1, e.2.toValue)

/-- The list in which fields and directions alternate. -/
def values (order : SortOrder) : List Value := flattenSort order.entries

@[simp] theorem values_nil : values [] = [] := rfl

@[simp] theorem values_cons (e : Value × Direction) (order : SortOrder) :
    values (e :: order) = e.1 :: e.2.toValue :: values order := rfl

theorem values_eq_nil_iff {order : SortOrder} : order.values = [] ↔ order = [] := by
  cases order with
  | nil => simp
  | cons e rest => simp

end SortOrder

/-! ## Reading -/

theorem SortToken.read_direction (d : Direction) : read d.toValue = .ok (.direction d) := by
  cases d <;> rfl

/-- A field is followed by its direction, so what is read after a field that has none yet begins
with that direction. -/
def pendingDirection (expecting : Bool) (d : Direction) : List Value :=
  if expecting then [d.toValue] else []

/-- What is read from tokens is an order. Each of its fields is what the schema makes of a token
that names a field. -/
theorem readSort_inv {s : Schema} {cfg : Config} {expecting : Bool} {tokens values : List Value}
    (h : (readSort s cfg expecting tokens).result = .ok values) :
    ∃ (d : Direction) (order : SortOrder),
      values = pendingDirection expecting d ++ order.values ∧
      ∀ e ∈ order, ∃ token ∈ tokens, SortToken.read token = .ok .field ∧
        s.sortField? cfg token = .ok (some e.1) := by
  induction tokens generalizing expecting values with
  | nil =>
      obtain rfl := Except.ok.inj h
      exact ⟨.ascending, [], (List.append_nil _).symm, nofun⟩
  | cons token rest ih =>
      -- what is read from the rest comes from its tokens
      have hrest : ∀ {expecting' : Bool} {more : List Value},
          (readSort s cfg expecting' rest).result = .ok more →
          ∃ (d : Direction) (order : SortOrder),
            more = pendingDirection expecting' d ++ order.values ∧
            ∀ e ∈ order, ∃ token' ∈ token :: rest, SortToken.read token' = .ok .field ∧
              s.sortField? cfg token' = .ok (some e.1) := by
        intro expecting' more hmore
        obtain ⟨d, order, hvalues, hfields⟩ := ih hmore
        refine ⟨d, order, hvalues, fun e he => ?_⟩
        obtain ⟨t, ht, hfield⟩ := hfields e he
        exact ⟨t, List.mem_cons_of_mem _ ht, hfield⟩
      rw [readSort] at h
      obtain ⟨read, hread, h⟩ := Logged.result_bind_ok h
      cases read with
      | direction d =>
          cases expecting with
          | true =>
              obtain ⟨more, hmore, h⟩ := Logged.result_bind_ok h
              obtain rfl := Except.ok.inj h
              obtain ⟨d', order, rfl, hfields⟩ := hrest hmore
              exact ⟨d, order, rfl, hfields⟩
          | false =>
              obtain ⟨_, -, h⟩ := Logged.result_bind_ok h
              exact hrest h
      | stray =>
          obtain ⟨_, -, h⟩ := Logged.result_bind_ok h
          exact hrest h
      | field =>
          obtain ⟨name, hname, h⟩ := Logged.result_bind_ok h
          cases name with
          | some name =>
              obtain ⟨more, hmore, h⟩ := Logged.result_bind_ok h
              obtain rfl := Except.ok.inj h
              obtain ⟨d, order, rfl, hfields⟩ := hrest hmore
              refine ⟨.ascending, (name, d) :: order, rfl, fun e he => ?_⟩
              rcases List.mem_cons.mp he with rfl | he
              · exact ⟨token, List.mem_cons_self, hread, hname⟩
              · exact hfields e he
          | none =>
              obtain ⟨_, -, h⟩ := Logged.result_bind_ok h
              obtain ⟨more, hmore, h⟩ := Logged.result_bind_ok h
              obtain rfl := Except.ok.inj h
              obtain ⟨d, order, rfl, hfields⟩ := hrest hmore
              exact ⟨.ascending, order, rfl, hfields⟩

/-- Where fields are not looked up, a token is the field that it names. -/
theorem Schema.sortField?_of_unchecked {s : Schema} (hs : s.checksSort = false) (cfg : Config)
    (token : Value) : s.sortField? cfg token = .ok (some token) := by
  unfold sortField?
  rw [hs]
  rfl

/-- Where fields are not looked up, an order of tokens that name fields is read as itself, and
nothing is reported. -/
theorem readSort_values {s : Schema} (hs : s.checksSort = false) (cfg : Config) {order : SortOrder}
    (h : ∀ e ∈ order, SortToken.read e.1 = .ok .field) :
    readSort s cfg false order.values = ⟨[], .ok order.values⟩ := by
  induction order with
  | nil => rfl
  | cons e rest ih =>
      obtain ⟨field, d⟩ := e
      replace ih := ih fun e he => h e (List.mem_cons_of_mem _ he)
      rw [SortOrder.values_cons, readSort, h _ List.mem_cons_self, Logged.liftM_ok,
        Logged.bind_ok, List.nil_append]
      dsimp only
      rw [Schema.sortField?_of_unchecked hs, readSort, SortToken.read_direction]
      simp [ih, impliedDirection]

/-- So a field of the matrix that holds such an order is settled already. -/
theorem Matrix.settleField_values {s : Schema} (hs : s.checksSort = false) (cfg : Config)
    {name : Value} (hname : FieldName.isSort name = true) {order : SortOrder} (hne : order ≠ [])
    (h : ∀ e ∈ order, SortToken.read e.1 = .ok .field) :
    settleField s cfg name { eq := some order.values } =
      ⟨[], .ok (some { eq := some order.values })⟩ := by
  have hvalues : order.values.isEmpty = false := by
    rw [List.isEmpty_eq_false_iff, ne_eq, SortOrder.values_eq_nil_iff]
    exact hne
  unfold settleField
  dsimp only [Option.getD_some]
  rw [hname, hvalues]
  unfold settleSort
  rw [readSort_values hs cfg h, Logged.bind_ok, hvalues]
  rfl

/-! ## Mappings -/

/-- Setting the fields of an order is setting the entries of its mapping. -/
theorem putSort_values {order : SortOrder} (h : ∀ e ∈ order, e.1.keyObstacle? = none)
    (m : Mapping Value) :
    putSort m order.values = .ok (order.entries.foldl (fun m e => Mapping.put e.1 e.2 m) m) := by
  have hentries : sortEntries order.values = order.entries := sortEntries_flattenSort _
  rw [putSort_eq, hentries]
  rw [hentries, Mapping.keys, SortOrder.entries, List.map_map]
  exact List.forall_mem_map.mpr h

/-- A mapping of fields to directions, with those of an order set, is one still. -/
theorem directions_of_putSort {order : SortOrder} {m sort : Mapping Value}
    (h : putSort m order.values = .ok sort) (hm : ∀ e ∈ m, ∃ d : Direction, e.2 = d.toValue) :
    ∀ e ∈ sort, ∃ d : Direction, e.2 = d.toValue := by
  induction order generalizing m with
  | nil =>
      obtain rfl := Except.ok.inj h
      exact hm
  | cons first rest ih =>
      rw [SortOrder.values_cons, putSort] at h
      obtain ⟨key, -, h⟩ := Except.bind_eq_ok h
      refine ih h fun e he => ?_
      rcases Mapping.mem_put he with hd | he
      · exact ⟨first.2, hd⟩
      · exact hm e he

theorem Value.plainEntries_eq_self {entries : Mapping Value} (h : ∀ e ∈ entries, e.2.plain = e.2) :
    Value.plainEntries entries = entries := by
  induction entries with
  | nil => rfl
  | cons e rest ih =>
      obtain ⟨key, v⟩ := e
      rw [Value.plainEntries, h _ List.mem_cons_self, ih fun e he => h e (List.mem_cons_of_mem _ he)]

/-- The mapping of an order holds directions, which are plain. -/
theorem plain_of_sortMapping {order : SortOrder} {sort : Mapping Value}
    (h : sortMapping order.values = .ok sort) : (Value.mapping sort).plain = .mapping sort := by
  have hplain : ∀ e ∈ sort, e.2.plain = e.2 := by
    intro e he
    obtain ⟨d, hd⟩ := directions_of_putSort h (fun _ he => nomatch he) e he
    rw [hd]
    cases d <;> rfl
  rw [Value.plain, Value.plainEntries_eq_self hplain]

end QueryFilter
