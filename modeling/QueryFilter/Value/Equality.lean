import QueryFilter.Value.Basic

/-!
# QueryFilter.Value.Equality

When two values are the same: when they are one object or equal. Numbers are equal when they are
worth the same, whatever their types; mappings and sets whatever their order; a list is never a
tuple; and what is not a number equals nothing, so it is the same only as the object that it is.
A value is looked for in this way among others, as a key of a mapping, as a member of a list or a
set, and as a part of a value that is compared.

* `Value.same`: the relation, as a function; `a == b` on values means it.
* `Value.distinct`: a list without the elements that are the same as an earlier one.
-/

namespace QueryFilter

namespace Value

/-- What a schema entry's field holds when it was not given. -/
def isFieldDefault (name : String) : Value → Bool
  | .null => name == "transfn" || name == "default" || name == "default_op"
  | .bool false => name == "read_only"
  | _ => false

/-- Is the value one object with the number, or worth as much? -/
def sameNumber (m : Number) (b : Value) : Bool :=
  match b.number? with
  | some n => m.identical n || m.compare n == .same
  | none => false

/-- Is the value that text? -/
def sameText (s : String) : Value → Bool
  | .text t => s == t
  | _ => false

/-- Is the value that byte string? -/
def sameBytes (content : List UInt8) : Value → Bool
  | .bytes other => content == other
  | _ => false

/-- Is the value that conversion? -/
def sameCallable (f : Coercion) : Value → Bool
  | .callable g => f == g
  | _ => false

mutual

/-- Are two values the same: one object, or equal? -/
def same : Value → Value → Bool
  | .null, b => b.isNull
  | .bool x, b => sameNumber (.int (if x then 1 else 0)) b
  | .int n, b => sameNumber (.int n) b
  | .float x, b => sameNumber (.float x) b
  | .text s, b => sameText s b
  | .bytes content, b => sameBytes content b
  | .list xs, .list ys => sameItems xs ys
  | .list _, _ => false
  | .tuple xs, .tuple ys => sameItems xs ys
  | .tuple _, _ => false
  | .set xs, .set ys => xs.length == ys.length && allAmong xs ys
  | .set _, _ => false
  | .mapping xs, .mapping ys => xs.length == ys.length && allEntriesAmong xs ys
  | .mapping _, _ => false
  | .object xs, .object ys => xs.length == ys.length && allFieldsAmong xs ys
  | .object _, _ => false
  | .callable f, b => sameCallable f b
  | .descriptor xs, .descriptor ys =>
      sameFields xs ys &&
        ys.all fun field => (xs.lookup field.1).isSome || isFieldDefault field.1 field.2
  | .descriptor _, _ => false
termination_by structural v => v

/-- Are two lists of values the same, element by element? -/
def sameItems : List Value → List Value → Bool
  | [], [] => true
  | x :: xs, y :: ys => same x y && sameItems xs ys
  | _, _ => false
termination_by structural v => v

/-- Is each of the values the same as one of the others? -/
def allAmong : List Value → List Value → Bool
  | [], _ => true
  | x :: xs, ys => ys.any (fun y => same x y) && allAmong xs ys
termination_by structural v => v

/-- Is each entry found among the others, key and value? -/
def allEntriesAmong : List (Value × Value) → List (Value × Value) → Bool
  | [], _ => true
  | (k, v) :: xs, ys => ys.any (fun e => same k e.1 && same v e.2) && allEntriesAmong xs ys
termination_by structural v => v

/-- Is each attribute found among the others, name and value? -/
def allFieldsAmong : List (String × Value) → List (String × Value) → Bool
  | [], _ => true
  | (n, v) :: xs, ys => ys.any (fun e => n == e.1 && same v e.2) && allFieldsAmong xs ys
termination_by structural v => v

/-- Does each field hold the same as the other entry's field of that name, or as its default? -/
def sameFields : List (String × Value) → List (String × Value) → Bool
  | [], _ => true
  | (n, v) :: xs, ys =>
      (match ys.lookup n with
        | some w => same v w
        | none => isFieldDefault n v) && sameFields xs ys
termination_by structural v => v

end

instance : BEq Value := ⟨same⟩

theorem beq_eq_same (a b : Value) : (a == b) = same a b := rfl

@[simp] theorem text_beq (s : String) (b : Value) : (Value.text s == b) = sameText s b := by
  rw [beq_eq_same, same]

@[simp] theorem int_beq (n : Int) (b : Value) : (Value.int n == b) = sameNumber (.int n) b := by
  rw [beq_eq_same, same]

/-- Integers are the same when they are equal. -/
@[simp] theorem sameNumber_int (m n : Int) : sameNumber (.int m) (.int n) = (m == n) := by
  simp only [sameNumber, number?, Number.identical_int, Bool.false_or, Number.compare,
    Comparison.ofInts]
  rcases Int.lt_trichotomy m n with h | h | h
  · rw [if_pos h, beq_false_of_ne (Int.ne_of_lt h)]; rfl
  · simp [h]
  · rw [if_neg (by omega), if_neg (by omega), beq_false_of_ne (Int.ne_of_gt h)]; rfl

/-- A text is the same as nothing but an equal text. -/
theorem sameText_eq_true_iff {s : String} {v : Value} : sameText s v = true ↔ v = .text s := by
  cases v with
  | text t => simp only [sameText, beq_iff_eq, Value.text.injEq]; exact eq_comm
  | _ => simp [sameText]

/-- The elements that are neither one object with an earlier one nor equal to one, in order. -/
def distinct (values : List Value) : List Value :=
  values.foldl (fun kept v => if kept.contains v then kept else kept ++ [v]) []

end Value

end QueryFilter
