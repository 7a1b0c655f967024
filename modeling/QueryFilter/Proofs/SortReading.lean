import QueryFilter.Proofs.SortOrder

/-!
# QueryFilter.Proofs.SortReading

What the tokens of a sort mean, said without the flag that their reader carries along.

Each token is something by itself: a number, blank, or the name of a field, which the schema accepts
or rejects. A field's direction is the first number worth one or minus one that stands after it and
before the next field, whether that field is accepted or not.

* `SortItem`, `Schema.Reads`: what a token is by itself.
* `SortItem.directionAfter`, `SortItem.order`: the accepted fields, each with its direction.
* `SortItem.reports`: what is reported of the tokens, one after the other.
* `readSort_from`: the reader's flag says that the latest field has no direction yet.
* `readSort_eq_order`: the reader finds this order and these reports.
-/

namespace QueryFilter

/-! ## Tokens by themselves -/

/-- What a token of a sort is by itself. -/
inductive SortItem where
  /-- a number, or a text that spells one -/
  | number (n : Number)
  /-- null, or a text of nothing but blanks -/
  | blank
  /-- a field that may be sorted by, under the name that the schema knows it by -/
  | accepted (name : Value)
  /-- a field that may not be sorted by -/
  | rejected

/-- The token is neither a number nor blank, and so it names a field. -/
structure NamesField (token : Value) : Prop where
  no_number : SortToken.number? token = .ok none
  not_blank : SortToken.isBlank token = false

/-- What a schema makes of a token. Where it checks the fields of a sort, a field is looked up under
its normalized name; elsewhere every field is accepted as it is. -/
inductive Schema.Reads (s : Schema) (cfg : Config) : Value → SortItem → Prop where
  | number {token : Value} {n : Number} :
      SortToken.number? token = .ok (some n) → s.Reads cfg token (.number n)
  | blank {token : Value} :
      SortToken.number? token = .ok none → SortToken.isBlank token = true → s.Reads cfg token .blank
  | unchecked {token : Value} :
      NamesField token → s.checksSort = false → s.Reads cfg token (.accepted token)
  | found {token name entry : Value} :
      NamesField token → s.checksSort = true → s.normalize token cfg = .ok name →
        s.entry name cfg = .ok entry → entry.isEntry = true → s.Reads cfg token (.accepted name)
  | notFound {token name entry : Value} :
      NamesField token → s.checksSort = true → s.normalize token cfg = .ok name →
        s.entry name cfg = .ok entry → entry.isEntry = false → s.Reads cfg token .rejected

/-- The tokens on which nothing fails: no integer is too long, and no function of the caller's that a
field is handed to raises a fault. -/
structure Schema.Readable (s : Schema) (cfg : Config) (tokens : List Value) : Prop where
  numbers : ∀ token ∈ tokens, ∃ n?, SortToken.number? token = .ok n?
  fields : s.checksSort = true → ∀ token ∈ tokens, NamesField token →
    ∃ name entry, s.normalize token cfg = .ok name ∧ s.entry name cfg = .ok entry

/-- Such a token is one of these things. -/
theorem Schema.Readable.exists_item {s : Schema} {cfg : Config} {tokens : List Value}
    (h : s.Readable cfg tokens) {token : Value} (htoken : token ∈ tokens) :
    ∃ item, s.Reads cfg token item := by
  obtain ⟨_ | n, hnumber⟩ := h.numbers token htoken
  · cases hblank : SortToken.isBlank token with
    | true => exact ⟨.blank, .blank hnumber hblank⟩
    | false =>
        have hfield : NamesField token := ⟨hnumber, hblank⟩
        cases hchecks : s.checksSort with
        | false => exact ⟨.accepted token, .unchecked hfield hchecks⟩
        | true =>
            obtain ⟨name, entry, hname, hentry⟩ := h.fields hchecks token htoken hfield
            cases hfound : entry.isEntry with
            | true => exact ⟨.accepted name, .found hfield hchecks hname hentry hfound⟩
            | false => exact ⟨.rejected, .notFound hfield hchecks hname hentry hfound⟩
  · exact ⟨.number n, .number hnumber⟩

theorem Schema.exists_reads {s : Schema} {cfg : Config} {tokens : List Value}
    (h : ∀ token ∈ tokens, ∃ item, s.Reads cfg token item) :
    ∃ reads : List (Value × SortItem),
      reads.map Prod.fst = tokens ∧ ∀ e ∈ reads, s.Reads cfg e.1 e.2 := by
  induction tokens with
  | nil => exact ⟨[], rfl, nofun⟩
  | cons token rest ih =>
      obtain ⟨item, hitem⟩ := h token List.mem_cons_self
      obtain ⟨reads, rfl, hreads⟩ := ih fun t ht => h t (List.mem_cons_of_mem _ ht)
      exact ⟨(token, item) :: reads, rfl, List.forall_mem_cons.mpr ⟨hitem, hreads⟩⟩

/-! ## The order of items -/

namespace SortItem

/-- The direction that an item is worth: that of a number which is the same as one or minus one. -/
def direction? : SortItem → Option Direction
  | .number n => [Direction.ascending, .descending].find? fun d => Value.ofNumber n == d.toValue
  | _ => none

/-- Does the item name a field, be it accepted or rejected? -/
def isField : SortItem → Bool
  | .accepted _ => true
  | .rejected => true
  | _ => false

/-- The direction of a field with these items after it: the first one before the next field, and
ascending if there is none. -/
def directionAfter (after : List SortItem) : Direction :=
  ((after.takeWhile fun item => !item.isField).findSome? direction?).getD .ascending

/-- The accepted fields, in order, each with its direction. -/
def order : List SortItem → SortOrder
  | [] => []
  | .accepted name :: after => (name, directionAfter after) :: order after
  | _ :: after => order after

/-- Does the next direction belong to a field, after these items, of which the latest is the first?
So it does if an accepted field is the latest among the fields and directions. -/
def awaitsDirection (before : List SortItem) : Bool :=
  match before.find? fun item => item.isField || item.direction?.isSome with
  | some (.accepted _) => true
  | _ => false

/-- What is reported of a token after these items: a rejected field, and a number or a blank that is
not the direction of a field. -/
def report (before : List SortItem) (token : Value) : SortItem → List Diagnostic
  | .accepted _ => []
  | .rejected => [.sortFieldNotAllowed token]
  | item =>
      if item.direction?.isSome && awaitsDirection before then []
      else [.unexpectedSortToken token]

/-- What is reported of tokens, one after the other. -/
def reports (before : List SortItem) : List (Value × SortItem) → List Diagnostic
  | [] => []
  | (token, item) :: rest => report before token item ++ reports (item :: before) rest

/-! ### One item more -/

section Cons

variable {item : SortItem} {d : Direction} (before after : List SortItem)

theorem isField_of_direction? (h : item.direction? = some d) : item.isField = false := by
  cases item with
  | number n => rfl
  | _ => exact nomatch h

@[simp] theorem awaitsDirection_accepted (name : Value) :
    awaitsDirection (.accepted name :: before) = true := rfl

@[simp] theorem awaitsDirection_rejected : awaitsDirection (.rejected :: before) = false := rfl

theorem awaitsDirection_of_direction? (h : item.direction? = some d) :
    awaitsDirection (item :: before) = false := by
  unfold awaitsDirection
  rw [List.find?_cons_of_pos (by simp [h])]
  cases item with
  | number n => rfl
  | _ => exact nomatch h

theorem awaitsDirection_of_stray (hfield : item.isField = false) (h : item.direction? = none) :
    awaitsDirection (item :: before) = awaitsDirection before := by
  unfold awaitsDirection
  rw [List.find?_cons_of_neg (by simp [hfield, h])]

theorem directionAfter_of_isField (h : item.isField = true) :
    directionAfter (item :: after) = .ascending := by
  unfold directionAfter
  rw [List.takeWhile_cons_of_neg (by simp [h])]
  rfl

theorem directionAfter_of_direction? (h : item.direction? = some d) :
    directionAfter (item :: after) = d := by
  unfold directionAfter
  rw [List.takeWhile_cons_of_pos (by simp [isField_of_direction? h]), List.findSome?_cons, h]
  rfl

theorem directionAfter_of_stray (hfield : item.isField = false) (h : item.direction? = none) :
    directionAfter (item :: after) = directionAfter after := by
  unfold directionAfter
  rw [List.takeWhile_cons_of_pos (by simp [hfield]), List.findSome?_cons, h]

theorem order_of_not_isField (h : item.isField = false) : order (item :: after) = order after := by
  cases item with
  | number n => rfl
  | blank => rfl
  | _ => exact nomatch h

theorem report_of_not_isField (h : item.isField = false) (token : Value) :
    report before token item =
      if item.direction?.isSome && awaitsDirection before then []
      else [.unexpectedSortToken token] := by
  cases item with
  | number n => rfl
  | blank => rfl
  | _ => exact nomatch h

end Cons

/-! ## The reader -/

/-- How the reader takes an item. -/
def kind (item : SortItem) : SortToken :=
  if item.isField then .field else item.direction?.elim .stray .direction

theorem kind_of_not_isField {item : SortItem} (h : item.isField = false) :
    item.kind = item.direction?.elim .stray .direction := by
  unfold kind
  rw [h]
  rfl

theorem kind_number (n : Number) : (number n).kind = SortToken.ofNumber n := by
  have hsame : ∀ d : Direction, (Value.ofNumber n == d.toValue) =
      (n.compare (if d = .ascending then .int 1 else .int (-1)) == .same) := by
    intro d
    have hnumber : (Value.ofNumber n == d.toValue) = Value.sameNumber n d.toValue := by
      cases n <;> rfl
    rw [hnumber]
    cases d <;> simp [Direction.toValue, Value.sameNumber, Value.number?]
  show ([Direction.ascending, .descending].find? fun d => Value.ofNumber n == d.toValue).elim
    SortToken.stray SortToken.direction = _
  unfold SortToken.ofNumber
  simp only [hsame, List.find?_cons, reduceCtorEq, if_true, if_false]
  by_cases h : n.compare (.int 1) = .same
  · rw [h]
    rfl
  · rw [if_neg h, beq_false_of_ne h]
    by_cases h' : n.compare (.int (-1)) = .same
    · rw [h']
      rfl
    · rw [if_neg h', beq_false_of_ne h']
      rfl

end SortItem

theorem NamesField.read_eq {token : Value} (h : NamesField token) :
    SortToken.read token = .ok .field := by
  unfold SortToken.read
  rw [h.no_number]
  show Except.ok (if SortToken.isBlank token then _ else _) = _
  rw [h.not_blank]
  rfl

namespace Schema.Reads

variable {s : Schema} {cfg : Config} {token : Value} {item : SortItem}

/-- The reader takes a token as what it is by itself. -/
theorem read_eq (h : s.Reads cfg token item) : SortToken.read token = .ok item.kind := by
  cases h with
  | @number n hnumber =>
      unfold SortToken.read
      rw [hnumber, SortItem.kind_number]
      rfl
  | blank hnumber hblank =>
      unfold SortToken.read
      rw [hnumber]
      show Except.ok (if SortToken.isBlank token then _ else _) = _
      rw [hblank]
      rfl
  | unchecked hfield => exact hfield.read_eq
  | found hfield => exact hfield.read_eq
  | notFound hfield => exact hfield.read_eq

/-- An accepted field is looked up under its name. -/
theorem sortField?_accepted {name : Value} (h : s.Reads cfg token (.accepted name)) :
    s.sortField? cfg token = .ok (some name) := by
  cases h with
  | unchecked _ hchecks => exact sortField?_of_unchecked hchecks cfg token
  | found _ hchecks hname hentry hfound =>
      unfold sortField? isSortable
      rw [if_pos hchecks, hname]
      show (s.entry name cfg >>= _) >>= _ = _
      rw [hentry]
      show Except.ok (if Value.isEntry _ then _ else _) = _
      rw [hfound]
      rfl

theorem sortField?_rejected (h : s.Reads cfg token .rejected) :
    s.sortField? cfg token = .ok none := by
  cases h with
  | @notFound name entry _ hchecks hname hentry hfound =>
      unfold sortField? isSortable
      rw [if_pos hchecks, hname]
      show (s.entry name cfg >>= _) >>= _ = _
      rw [hentry]
      show Except.ok (if Value.isEntry _ then _ else _) = _
      rw [hfound]
      rfl

end Schema.Reads

open SortItem in
/-- The reader's flag says that the latest field has no direction yet. With it, the reader finds the
order of the items and what is reported of them. -/
theorem readSort_from {s : Schema} {cfg : Config} {reads : List (Value × SortItem)}
    (h : ∀ e ∈ reads, s.Reads cfg e.1 e.2) (before : List SortItem) :
    readSort s cfg (awaitsDirection before) (reads.map Prod.fst) =
      ⟨reports before reads,
        .ok (pendingDirection (awaitsDirection before) (directionAfter (reads.map Prod.snd)) ++
          (order (reads.map Prod.snd)).values)⟩ := by
  induction reads generalizing before with
  | nil =>
      rw [List.map_nil, List.map_nil, readSort]
      cases awaitsDirection before <;> rfl
  | cons e rest ih =>
      obtain ⟨token, item⟩ := e
      have hitem : s.Reads cfg token item := h _ List.mem_cons_self
      replace ih := ih (fun e he => h e (List.mem_cons_of_mem _ he)) (item :: before)
      rw [List.map_cons, List.map_cons, readSort, hitem.read_eq, Logged.liftM_ok, Logged.bind_ok,
        List.nil_append, reports]
      cases hfield : item.isField with
      | false =>
          rw [kind_of_not_isField hfield, report_of_not_isField before hfield,
            order_of_not_isField _ hfield]
          cases hd : item.direction? with
          | none =>
              -- neither a field nor a direction: the flag stays as it is
              rw [awaitsDirection_of_stray before hfield hd] at ih
              rw [directionAfter_of_stray _ hfield hd]
              show (Logged.note _ >>= fun _ => readSort s cfg (awaitsDirection before) _) = _
              rw [ih]
              rfl
          | some d =>
              rw [awaitsDirection_of_direction? before hd] at ih
              rw [directionAfter_of_direction? _ hd]
              cases hawaits : awaitsDirection before with
              | true =>
                  show (readSort s cfg false _ >>= fun more => pure (d.toValue :: more)) = _
                  rw [ih]
                  simp [pendingDirection]
              | false =>
                  show (Logged.note _ >>= fun _ => readSort s cfg false _) = _
                  rw [ih]
                  rfl
      | true =>
          rw [directionAfter_of_isField _ hfield]
          cases item with
          | accepted name =>
              rw [awaitsDirection_accepted] at ih
              show (liftM (s.sortField? cfg token) >>= _) = _
              rw [hitem.sortField?_accepted, Logged.liftM_ok, Logged.bind_ok]
              dsimp only
              rw [ih]
              simp [pendingDirection, impliedDirection, order, report]
          | rejected =>
              rw [awaitsDirection_rejected] at ih
              show (liftM (s.sortField? cfg token) >>= _) = _
              rw [hitem.sortField?_rejected, Logged.liftM_ok, Logged.bind_ok]
              dsimp only
              rw [ih]
              simp [pendingDirection, impliedDirection, order, report, Logged.note]
          | _ => exact absurd hfield Bool.false_ne_true

/-- **The reading of a sort.** Where nothing fails, each token is something by itself, and what is
read is the order of these items: the accepted fields, each followed by the first direction after it
and before the next field, or by the ascending one. What is reported are the rejected fields and the
other tokens that are no field's direction. -/
theorem readSort_eq_order {s : Schema} {cfg : Config} {tokens : List Value}
    (h : s.Readable cfg tokens) :
    ∃ reads : List (Value × SortItem),
      reads.map Prod.fst = tokens ∧ (∀ e ∈ reads, s.Reads cfg e.1 e.2) ∧
      readSort s cfg false tokens =
        ⟨SortItem.reports [] reads, .ok (SortItem.order (reads.map Prod.snd)).values⟩ := by
  obtain ⟨reads, rfl, hreads⟩ := Schema.exists_reads fun token htoken => h.exists_item htoken
  exact ⟨reads, rfl, hreads, readSort_from hreads []⟩

/-- A schema that knows two fields to sort by, one of them under a second name. -/
def aliasSchema : Schema where
  template := some [(.text "price", .mapping []), (.text "rank", .mapping [])]
  rename := some fun name _ => .ok (if name == .text "cost" then .text "price" else name)

/-- A direction before the first field, one that a null stands before, one too many, and one after a
field that the schema does not know. -/
def strayTokens : List Value :=
  [.int (-1), .text "cost", .null, .text "-1", .text "1", .text "name", .int 1, .text "rank"]

theorem readSort_strayTokens :
    aliasSchema.Readable [] strayTokens ∧
    ∃ reads : List (Value × SortItem),
      reads.map Prod.fst = strayTokens ∧ (∀ e ∈ reads, aliasSchema.Reads [] e.1 e.2) ∧
      readSort aliasSchema [] false strayTokens =
        ⟨SortItem.reports [] reads, .ok (SortItem.order (reads.map Prod.snd)).values⟩ := by
  have h : aliasSchema.Readable [] strayTokens := by
    constructor
    · simp only [strayTokens, List.forall_mem_cons]
      exact ⟨⟨_, rfl⟩, ⟨_, rfl⟩, ⟨_, rfl⟩, ⟨_, rfl⟩, ⟨_, rfl⟩, ⟨_, rfl⟩, ⟨_, rfl⟩, ⟨_, rfl⟩,
        List.forall_mem_nil _⟩
    · intro _
      simp only [strayTokens, List.forall_mem_cons]
      exact ⟨fun _ => ⟨_, _, rfl, rfl⟩, fun _ => ⟨_, _, rfl, rfl⟩, fun _ => ⟨_, _, rfl, rfl⟩,
        fun _ => ⟨_, _, rfl, rfl⟩, fun _ => ⟨_, _, rfl, rfl⟩, fun _ => ⟨_, _, rfl, rfl⟩,
        fun _ => ⟨_, _, rfl, rfl⟩, fun _ => ⟨_, _, rfl, rfl⟩, List.forall_mem_nil _⟩
  exact ⟨h, readSort_eq_order h⟩

end QueryFilter
