import QueryFilter.FieldName
import QueryFilter.Token
import QueryFilter.Proofs.Cutting

/-!
# QueryFilter.Proofs.Tokens

Keys and the marks in them. A key without a value is cut at its mark, and a key with a value loses
the one at its end.

* `pieces_of_pair`, `pieces_of_greater`, `pieces_of_less`: the mark that a key is cut at.
* `read_of_pieces`, `read_of_suffix`, `read_of_no_suffix`: the three ways to read a name, a value and
  an operator.
* `read_mark_iff`: a key gives back the name and the value around a mark where it holds the mark
  once.
* `read_inverts`: which keys give back what they were made of.
-/

namespace QueryFilter

namespace Token

/-! ## The mark of a key -/

section Marks

variable {key : List Char}

/-- A key that holds the pair of marks is cut at it, whatever else it holds. -/
theorem pieces_of_pair (h : ['<', '>'] <:+: key) :
    pieces key = (.bt, Text.splitAtPair '<' '>' key) := by
  unfold pieces
  split
  next hcut => exact absurd hcut ((Text.cuts_splitAtPair (by decide)).ne_singleton h _)
  next => rfl

theorem pieces_of_greater (hpair : ¬['<', '>'] <:+: key) (h : ['>'] <:+: key) :
    pieces key = (.gt, Text.splitAt '>' key) := by
  unfold pieces
  rw [Text.splitAtPair_of_not_infix hpair]
  dsimp only
  split
  next hcut => exact absurd hcut ((Text.cuts_splitAt '>').ne_singleton h _)
  next => rfl

theorem pieces_of_less (hgreater : ¬['>'] <:+: key) (h : ['<'] <:+: key) :
    pieces key = (.lt, Text.splitAt '<' key) := by
  have hpair : ¬['<', '>'] <:+: key := fun hoccurs =>
    hgreater (List.IsInfix.trans ⟨['<'], [], rfl⟩ hoccurs)
  unfold pieces
  rw [Text.splitAtPair_of_not_infix hpair, (Text.cuts_splitAt '>').whole key hgreater]
  dsimp only
  split
  next hcut => exact absurd hcut ((Text.cuts_splitAt '<').ne_singleton h _)
  next => rfl

end Marks

/-! ## Reading -/

section Reading

variable {key name : String} {op : Operator}

theorem operator_read_key (key : String) :
    (read key (.text "")).operator = (pieces key.toList).1 := by
  show (ofKey key (.text "")).operator = _
  unfold ofKey
  split
  next h => rw [h]
  next h => rw [h]

/-- A key without a value is read as the name and the value that its mark separates. -/
theorem read_of_pieces {value : String}
    (h : pieces key.toList = (op, [name.toList, value.toList])) :
    read key (.text "") = ⟨name, readNull (.text (Text.strip value)), op⟩ := by
  have hkey : ofKey key (.text "") = ⟨name, .text (Text.strip value), op⟩ := by
    unfold ofKey
    rw [h]
    simp [Text.strip]
  show Token.mk (ofKey key (.text "")).name (readNull (ofKey key (.text "")).value)
    (ofKey key (.text "")).operator = _
  rw [hkey]

/-- A key that is not cut in two is the name as a whole. -/
theorem name_read_of_pieces (h : (pieces key.toList).2.length ≠ 2) :
    (read key (.text "")).name = key := by
  show (ofKey key (.text "")).name = _
  unfold ofKey
  split
  next hpieces => simp [hpieces] at h
  next => rfl

/-- A key with a value is read as the name and the operator that its last character marks. -/
theorem read_of_suffix {c : Char} {v : Value} (hkey : key.toList = name.toList ++ [c])
    (hc : suffixOperator? c = some op) (hv : v.isTruthy = true) :
    read key v = ⟨name, readNull v, op⟩ := by
  have hpair : ofPair key v = ⟨name, v, op⟩ := by
    simp [ofPair, hkey, hc]
  unfold read
  rw [if_pos hv, hpair]

/-- A key with a value whose last character marks nothing is the name. -/
theorem read_of_no_suffix {v : Value} (hname : ∀ c ∈ name.toList.getLast?, suffixOperator? c = none)
    (hv : v.isTruthy = true) : read name v = ⟨name, readNull v, .eq⟩ := by
  have hlast : name.toList.getLast?.bind suffixOperator? = none := by
    simpa [Option.bind_eq_none_iff] using hname
  have hpair : ofPair name v = ⟨name, v, .eq⟩ := by
    simp [ofPair, hlast]
  unfold read
  rw [if_pos hv, hpair]

/-- A text for the sort that does not stand for null is its value. -/
theorem read_sort {s : String} (hs : s ≠ "") (hnull : isNullText s = false) :
    read FieldName.sort (.text s) = ⟨FieldName.sort, .text s, .eq⟩ := by
  have hlast : ∀ c ∈ FieldName.sort.toList.getLast?, suffixOperator? c = none := by
    intro c hc
    obtain rfl : 't' = c := Option.some.inj hc
    rfl
  rw [read_of_no_suffix hlast (by simpa [Value.isTruthy] using hs), readNull, hnull]
  rfl

end Reading

/-! ## Names and values around a mark -/

/-- A key that is cut at a mark gives back the name before it and the value after it exactly where it
holds the mark once. -/
theorem read_mark_iff {mark : List Char} {cut : List Char → List (List Char)} {op : Operator}
    {key name value : String} (hcut : Text.Cuts mark cut) (hmark : mark ≠ [])
    (hkey : key.toList = name.toList ++ mark ++ value.toList)
    (hpieces : pieces key.toList = (op, cut key.toList)) :
    read key (.text "") = ⟨name, readNull (.text (Text.strip value)), op⟩ ↔
      Text.occurrences mark key.toList = 1 := by
  constructor
  · intro hread
    by_contra honce
    have hname : (read key (.text "")).name = key := by
      refine name_read_of_pieces ?_
      rw [hpieces, hcut.length]
      omega
    -- the name would be as long as the key, which holds a mark besides
    rw [hread] at hname
    obtain rfl : name = key := hname
    have hlength := congrArg List.length hkey
    have hpos := List.length_pos_of_ne_nil hmark
    simp only [List.length_append] at hlength
    omega
  · intro honce
    refine read_of_pieces ?_
    rw [hkey] at honce
    rw [hpieces, hkey, hcut.eq_pair honce]

theorem toList_marked (name mark value : String) :
    (name ++ mark ++ value).toList = name.toList ++ mark.toList ++ value.toList := by
  rw [String.toList_append, String.toList_append]

theorem read_between_iff (name value : String) :
    read (name ++ "<>" ++ value) (.text "") =
        ⟨name, readNull (.text (Text.strip value)), .bt⟩ ↔
      Text.occurrences ['<', '>'] (name ++ "<>" ++ value).toList = 1 := by
  have hkey := toList_marked name "<>" value
  exact read_mark_iff (Text.cuts_splitAtPair (by decide)) (List.cons_ne_nil _ _) hkey
    (pieces_of_pair ⟨name.toList, value.toList, hkey.symm⟩)

theorem read_greater_iff (name value : String) :
    read (name ++ ">" ++ value) (.text "") =
        ⟨name, readNull (.text (Text.strip value)), .gt⟩ ↔
      Text.occurrences ['<', '>'] (name ++ ">" ++ value).toList = 0 ∧
        Text.occurrences ['>'] (name ++ ">" ++ value).toList = 1 := by
  have hkey := toList_marked name ">" value
  by_cases hpair : ['<', '>'] <:+: (name ++ ">" ++ value).toList
  · -- the pair of marks comes first, and means another operator
    refine iff_of_false (fun hread => ?_) fun h => Text.occurrences_eq_zero_iff.mp h.1 hpair
    have hop := operator_read_key (name ++ ">" ++ value)
    rw [hread, pieces_of_pair hpair] at hop
    exact nomatch hop
  · rw [Text.occurrences_eq_zero_iff]
    have hiff := read_mark_iff (Text.cuts_splitAt '>') (List.cons_ne_nil _ _) hkey
      (pieces_of_greater hpair ⟨name.toList, value.toList, hkey.symm⟩)
    exact hiff.trans (and_iff_right hpair).symm

theorem read_less_iff (name value : String) :
    read (name ++ "<" ++ value) (.text "") =
        ⟨name, readNull (.text (Text.strip value)), .lt⟩ ↔
      Text.occurrences ['>'] (name ++ "<" ++ value).toList = 0 ∧
        Text.occurrences ['<'] (name ++ "<" ++ value).toList = 1 := by
  have hkey := toList_marked name "<" value
  by_cases hgreater : ['>'] <:+: (name ++ "<" ++ value).toList
  · -- with the other mark in it, a key means one of two other operators
    refine iff_of_false (fun hread => ?_) fun h => Text.occurrences_eq_zero_iff.mp h.1 hgreater
    have hop := operator_read_key (name ++ "<" ++ value)
    rw [hread] at hop
    by_cases hpair : ['<', '>'] <:+: (name ++ "<" ++ value).toList
    · rw [pieces_of_pair hpair] at hop
      exact nomatch hop
    · rw [pieces_of_greater hpair hgreater] at hop
      exact nomatch hop
  · rw [Text.occurrences_eq_zero_iff]
    have hiff := read_mark_iff (Text.cuts_splitAt '<') (List.cons_ne_nil _ _) hkey
      (pieces_of_less hgreater ⟨name.toList, value.toList, hkey.symm⟩)
    exact hiff.trans (and_iff_right hgreater).symm

/-! ## Marks at the end -/

theorem suffixOperator?_eq_none_iff {c : Char} :
    suffixOperator? c = none ↔ c ∉ ['!', '<', '>', '$'] := by
  unfold suffixOperator?
  split <;> simp_all

/-- No mark at the end of a key with a value means equality. -/
theorem suffixOperator?_ne_eq {c : Char} : suffixOperator? c ≠ some .eq := by
  unfold suffixOperator?
  split <;> simp

theorem read_name_iff {w : Value} (hw : w.isTruthy = true) (name : String) :
    read name w = ⟨name, readNull w, .eq⟩ ↔
      ∀ c ∈ name.toList.getLast?, c ∉ ['!', '<', '>', '$'] := by
  simp only [← suffixOperator?_eq_none_iff]
  refine ⟨fun hread c hc => ?_, fun hlast => read_of_no_suffix hlast hw⟩
  cases hop : suffixOperator? c with
  | none => rfl
  | some op =>
      have hkey : name.toList = (String.ofList name.toList.dropLast).toList ++ [c] := by
        rw [String.toList_ofList, List.dropLast_append_getLast? c hc]
      rw [read_of_suffix hkey hop hw, Token.mk.injEq] at hread
      exact absurd (hread.2.2 ▸ hop) suffixOperator?_ne_eq

/-- **Which keys give back what they were made of.** A name and a value with a mark between them are
read back exactly where the key holds the mark once, and no mark that comes before it. A name with a
mark at its end is always read back, and a name by itself exactly where it does not end with one. -/
theorem read_inverts (name value : String) :
    (read (name ++ "<>" ++ value) (.text "") =
        ⟨name, readNull (.text (Text.strip value)), .bt⟩ ↔
      Text.occurrences ['<', '>'] (name ++ "<>" ++ value).toList = 1) ∧
    (read (name ++ ">" ++ value) (.text "") =
        ⟨name, readNull (.text (Text.strip value)), .gt⟩ ↔
      Text.occurrences ['<', '>'] (name ++ ">" ++ value).toList = 0 ∧
        Text.occurrences ['>'] (name ++ ">" ++ value).toList = 1) ∧
    (read (name ++ "<" ++ value) (.text "") =
        ⟨name, readNull (.text (Text.strip value)), .lt⟩ ↔
      Text.occurrences ['>'] (name ++ "<" ++ value).toList = 0 ∧
        Text.occurrences ['<'] (name ++ "<" ++ value).toList = 1) ∧
    ∀ w : Value, w.isTruthy = true →
      read (name ++ "!") w = ⟨name, readNull w, .ne⟩ ∧
      read (name ++ "<") w = ⟨name, readNull w, .lte⟩ ∧
      read (name ++ ">") w = ⟨name, readNull w, .gte⟩ ∧
      read (name ++ "$") w = ⟨name, readNull w, .regex⟩ ∧
      (read name w = ⟨name, readNull w, .eq⟩ ↔
        ∀ c ∈ name.toList.getLast?, c ∉ ['!', '<', '>', '$']) := by
  refine ⟨read_between_iff name value, read_greater_iff name value, read_less_iff name value,
    fun w hw => ⟨?_, ?_, ?_, ?_, read_name_iff hw name⟩⟩
  · exact read_of_suffix (c := '!') String.toList_append rfl hw
  · exact read_of_suffix (c := '<') String.toList_append rfl hw
  · exact read_of_suffix (c := '>') String.toList_append rfl hw
  · exact read_of_suffix (c := '$') String.toList_append rfl hw

/-- A name that ends with a mark itself can be read back under some marks only. -/
theorem read_inverts_angled :
    read ("a<" ++ "<>" ++ " null ") (.text "") = ⟨"a<", .null, .bt⟩ ∧
    read ("a<" ++ ">" ++ " null ") (.text "") ≠ ⟨"a<", .null, .gt⟩ ∧
    read ("a<" ++ "<" ++ " null ") (.text "") ≠ ⟨"a<", .null, .lt⟩ ∧
    (Value.text "NULL").isTruthy = true ∧
    read ("a<" ++ "!") (.text "NULL") = ⟨"a<", .null, .ne⟩ ∧
    read "a<" (.text "NULL") ≠ ⟨"a<", .null, .eq⟩ := by
  obtain ⟨hbetween, hgreater, hless, hvalue⟩ := read_inverts "a<" " null "
  have htruthy : (Value.text "NULL").isTruthy = true := by rfl
  obtain ⟨hne, -, -, -, heq⟩ := hvalue (.text "NULL") htruthy
  exact ⟨hbetween.mpr (by decide), fun h => absurd (hgreater.mp h) (by decide),
    fun h => absurd (hless.mp h) (by decide), htruthy, hne,
    fun h => heq.mp h '<' rfl (by decide)⟩

end Token

end QueryFilter
