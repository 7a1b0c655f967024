import QueryFilter.Value.Equality

/-!
# QueryFilter.Mapping

Mappings from values, as lists of entries in the order in which the keys were first set. Keys that
are one object or equal, such as `1` and `true`, are one key.

* `Mapping.lookup?`: what a key is mapped to.
* `Mapping.put`: a mapping with a key set; a key that is there keeps its place and its first form.
* `Mapping.erase`: a mapping without a key.
-/

namespace QueryFilter

/-- A mapping from values, in the order in which its keys were first set. -/
abbrev Mapping (α : Type) := List (Value × α)

/-- A configuration: whatever a caller wants to carry along, by name. -/
abbrev Config := Mapping Value

namespace Mapping

variable {α β : Type}

/-- What a key is mapped to. -/
def lookup? (key : Value) : Mapping α → Option α
  | [] => none
  | (k, a) :: rest => if key == k then some a else lookup? key rest

/-- Is the key set? -/
def hasKey (key : Value) (m : Mapping α) : Bool := (lookup? key m).isSome

/-- The mapping with a key set: at the first key that is one object with it or equals it, or at the
end. -/
def put (key : Value) (a : α) : Mapping α → Mapping α
  | [] => [(key, a)]
  | (k, b) :: rest => if key == k then (k, a) :: rest else (k, b) :: put key a rest

/-- The mapping without a key. -/
def erase (key : Value) (m : Mapping α) : Mapping α := m.filter fun e => !(key == e.1)

/-- The mapping that results from setting keys one after the other. -/
def ofEntries (entries : List (Value × α)) : Mapping α :=
  entries.foldl (fun m e => put e.1 e.2 m) []

/-- The keys, in order. -/
def keys (m : Mapping α) : List Value := m.map Prod.fst

/-- What a name is mapped to. -/
def find? (name : String) (m : Mapping α) : Option α := lookup? (.text name) m

/-- What a name is mapped to, null if it is not set. -/
def getOrNull (name : String) (m : Mapping Value) : Value := (find? name m).getD .null

@[simp] theorem lookup?_nil (key : Value) : lookup? key ([] : Mapping α) = none := rfl

@[simp] theorem hasKey_nil (key : Value) : hasKey key ([] : Mapping α) = false := rfl

/-- A key that is the same as itself is found where it was set. -/
theorem lookup?_put_self {key : Value} (h : (key == key) = true) (a : α) (m : Mapping α) :
    lookup? key (put key a m) = some a := by
  induction m with
  | nil => simp [put, lookup?, h]
  | cons e rest ih =>
      obtain ⟨k, b⟩ := e
      by_cases hk : (key == k) = true
      · simp [put, lookup?, hk]
      · simp [put, lookup?, hk, ih]

/-- Setting a key that is there moves nothing. -/
theorem keys_put_of_hasKey {key : Value} {a : α} {m : Mapping α} (h : hasKey key m = true) :
    keys (put key a m) = keys m := by
  induction m with
  | nil => simp at h
  | cons e rest ih =>
      obtain ⟨k, b⟩ := e
      by_cases hk : (key == k) = true
      · simp [put, keys, hk]
      · simp only [hasKey, lookup?, hk] at h
        simpa [put, keys, hk] using ih h

/-- A new key goes to the end. -/
theorem put_of_not_hasKey {key : Value} {a : α} {m : Mapping α} (h : hasKey key m = false) :
    put key a m = m ++ [(key, a)] := by
  induction m with
  | nil => rfl
  | cons e rest ih =>
      obtain ⟨k, b⟩ := e
      by_cases hk : (key == k) = true
      · simp [hasKey, lookup?, hk] at h
      · simp only [hasKey, lookup?, hk] at h
        simp [put, hk, ih h]

end Mapping

end QueryFilter
