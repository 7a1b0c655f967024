import QueryFilter.Proofs.Schemaless
import QueryFilter.Proofs.Spelling
import QueryFilter.Proofs.Tokens
import Mathlib.Algebra.Group.Nat.Defs

/-!
# QueryFilter.Proofs.Wire

How one slot of a filter is spelled in a query string, and that the spelling is read back.

* `IsWord`, `IsPattern`, `Atom`: what may be spelled.
* `Legible`: a text that is converted to a value whatever stands around it.
* `wire`: the pair that spells an operator's texts for a field.
* `pipePieces_piped`: the pieces of texts with pipes between them.
* `read_wire`, `rawPieces_carried`: the token of such a pair and the pieces of its value.
* `wire_key_inj`: keys of different slots are different.
* `contribution?_wire`: the pair adds the values that the texts stand for, and reports nothing.
-/

namespace QueryFilter

/-! ## Texts that are read as they are meant -/

/-- A word: trimmed, no number, no null, and without a mark. -/
structure IsWord (s : String) : Prop where
  ne_empty : s ≠ ""
  strip_eq : Text.strip s = s
  not_spelled : ¬Spelled s.toList
  not_null : isNullText s = false
  no_mark : ∀ c ∈ s.toList, c ≠ '|' ∧ c ≠ '<' ∧ c ≠ '>'

/-- A pattern: trimmed, no number and no null. It may hold marks. -/
structure IsPattern (s : String) : Prop where
  ne_empty : s ≠ ""
  strip_eq : Text.strip s = s
  not_spelled : ¬Spelled s.toList
  not_null : isNullText s = false

/-- A word, or an integer that is not too long to be read. -/
inductive Atom where
  | word (s : String) (h : IsWord s)
  | int (n : Int) (h : n.natAbs < 10 ^ Numeral.maxIntegerDigits)

/-- An atom as it is written. -/
def Atom.text : Atom → String
  | .word s _ => s
  | .int n _ => renderInt n

/-- What an atom stands for. -/
def Atom.value : Atom → Value
  | .word s _ => .text s
  | .int n _ => .int n

/-- A text that is converted to a value, and that neither trimming nor null gets in the way of. -/
structure Legible (text : String) (value : Value) : Prop where
  ne_empty : text ≠ ""
  trimmed : Text.IsTrimmed text.toList
  not_null : isNullText text = false
  convert : convertPiece (.text text) = .ok value

theorem trim_of_strip_eq {s : String} (h : Text.strip s = s) : Text.trim s.toList = s.toList := by
  rw [← h, Text.strip, String.toList_ofList]
  have h' := congrArg String.toList h
  rw [Text.strip, String.toList_ofList] at h'
  rw [h', h']

/-- A trimmed text that spells no number is converted to itself. -/
theorem IsPattern.legible {s : String} (h : IsPattern s) : Legible s (.text s) := by
  have htrim := trim_of_strip_eq h.strip_eq
  refine ⟨h.ne_empty, Text.isTrimmed_of_trim_eq htrim, h.not_null, ?_⟩
  have hread : readNumber s = .ok none := by
    rw [readNumber_eq_none_iff, htrim]
    exact h.not_spelled
  rw [convertPiece_text, hread]
  exact congrArg (fun t => Except.ok (Value.text t)) h.strip_eq

theorem IsWord.legible {s : String} (h : IsWord s) : Legible s (.text s) :=
  IsPattern.legible ⟨h.ne_empty, h.strip_eq, h.not_spelled, h.not_null⟩

/-- The characters of a decimal text: the minus sign and digits. -/
theorem mem_renderInt {n : Int} {c : Char} (h : c ∈ (renderInt n).toList) :
    c = '-' ∨ Text.isDigit c = true := by
  rw [toList_renderInt] at h
  rcases List.mem_append.mp h with h | h
  · unfold signOf at h
    split at h
    · exact .inl (List.mem_singleton.mp h)
    · exact nomatch h
  · exact .inr ((isDigits_decimalDigits _).2 c h)

/-- A character that is neither the minus sign nor a digit is in no decimal text. -/
theorem not_mem_renderInt (n : Int) {c : Char} (h : (c == '-' || Text.isDigit c) = false) :
    c ∉ (renderInt n).toList := by
  intro hc
  rw [Bool.or_eq_false_iff, beq_eq_false_iff_ne] at h
  rcases mem_renderInt hc with hm | hd
  · exact h.1 hm
  · rw [hd] at h
    exact nomatch h.2

theorem isTrimmed_renderInt (n : Int) : Text.IsTrimmed (renderInt n).toList := by
  refine Text.isTrimmed_of_forall fun c hc => ?_
  rcases mem_renderInt hc with rfl | hd
  · decide
  · exact Text.isBlank_eq_false_of_isDigit hd

/-- A decimal text of an integer is read back. -/
theorem readNumber_renderInt {n : Int} (h : n.natAbs < 10 ^ Numeral.maxIntegerDigits) :
    readNumber (renderInt n) = .ok (some (.int n)) := by
  have hliteral : IsLiteral (Text.trim (renderInt n).toList) (signOf n)
      (decimalDigits n.natAbs) := by
    refine ⟨optionalSign_signOf n, isDigits_decimalDigits _, ?_⟩
    rw [Text.trim_of_isTrimmed (isTrimmed_renderInt n), toList_renderInt]
  have hlength : ¬Numeral.maxIntegerDigits < (decimalDigits n.natAbs).length := by
    rw [Nat.not_lt]
    exact (Nat.length_toDigits_le_iff (by decide) (by decide)).mpr h
  rw [hliteral.readNumber_eq, if_neg hlength, ofDigits_decimalDigits, signed_signOf]

theorem legible_renderInt {n : Int} (h : n.natAbs < 10 ^ Numeral.maxIntegerDigits) :
    Legible (renderInt n) (.int n) := by
  have hn := not_mem_renderInt n (c := 'n') (by decide)
  have hN := not_mem_renderInt n (c := 'N') (by decide)
  refine ⟨?_, isTrimmed_renderInt n, ?_, ?_⟩
  · intro hempty
    have hnil := congrArg String.toList hempty
    rw [toList_renderInt] at hnil
    exact (isDigits_decimalDigits _).1 (List.append_eq_nil_iff.mp hnil).2
  · rw [isNullText, Bool.or_eq_false_iff, beq_eq_false_iff_ne, beq_eq_false_iff_ne]
    exact ⟨fun he => hn (by rw [he]; decide), fun he => hN (by rw [he]; decide)⟩
  · rw [convertPiece_text, readNumber_renderInt h]
    rfl

theorem Atom.legible (a : Atom) : Legible a.text a.value := by
  cases a with
  | word s h => exact h.legible
  | int n h => exact legible_renderInt h

theorem Atom.no_mark (a : Atom) : ∀ c ∈ a.text.toList, c ≠ '|' ∧ c ≠ '<' ∧ c ≠ '>' := by
  cases a with
  | word s h => exact h.no_mark
  | int n h =>
      intro c hc
      refine ⟨?_, ?_, ?_⟩ <;> rintro rfl
      · exact not_mem_renderInt n (by decide) hc
      · exact not_mem_renderInt n (by decide) hc
      · exact not_mem_renderInt n (by decide) hc

/-! ## Keys -/

namespace Token

variable {cs rest : List Char}

/-- A key that holds the two characters of `<>` once, next to each other. -/
theorem pieces_bt (hcs : '<' ∉ cs) (hrest : '<' ∉ rest) :
    pieces (cs ++ '<' :: '>' :: rest) = (.bt, [cs, rest]) := by
  have hnot : ∀ {text : List Char}, '<' ∉ text → ¬['<', '>'] <:+: text := fun h hoccurs =>
    h (hoccurs.subset List.mem_cons_self)
  rw [pieces_of_pair ⟨cs, rest, by simp⟩, Text.splitAtPair_append (by decide),
    Text.splitAtPair_of_not_infix (hnot hcs), Text.splitAtPair_of_not_infix (hnot hrest)]
  rfl

theorem pieces_gt (hcs : '<' ∉ cs ∧ '>' ∉ cs) (hrest : '<' ∉ rest ∧ '>' ∉ rest) :
    pieces (cs ++ '>' :: rest) = (.gt, [cs, rest]) := by
  have hpair : ¬['<', '>'] <:+: cs ++ '>' :: rest := fun hoccurs => by
    simpa [hcs.1, hrest.1] using hoccurs.subset List.mem_cons_self
  rw [pieces_of_greater hpair ⟨cs, rest, by simp⟩, Text.splitAt_append_mark,
    Text.splitAt_of_not_mem hcs.2, Text.splitAt_of_not_mem hrest.2]
  rfl

theorem pieces_lt (hcs : '<' ∉ cs ∧ '>' ∉ cs) (hrest : '<' ∉ rest ∧ '>' ∉ rest) :
    pieces (cs ++ '<' :: rest) = (.lt, [cs, rest]) := by
  have hgreater : ¬['>'] <:+: cs ++ '<' :: rest := fun hoccurs => by
    simpa [hcs.2, hrest.2] using hoccurs.subset List.mem_cons_self
  rw [pieces_of_less hgreater ⟨cs, rest, by simp⟩, Text.splitAt_append_mark,
    Text.splitAt_of_not_mem hcs.1, Text.splitAt_of_not_mem hrest.1]
  rfl

end Token

/-! ## Wire forms -/

/-- A name of a field that no mark is a part of. -/
structure IsFieldName (s : String) : Prop where
  ne_empty : s ≠ ""
  not_reserved : FieldName.isReserved (.text s) = false
  no_mark : ∀ c ∈ s.toList, c ≠ '<' ∧ c ≠ '>'
  last : ∀ c ∈ s.toList.getLast?, c ≠ '!' ∧ c ≠ '$'

/-- Texts as one text, with pipes between them. -/
def piped (texts : List String) : String :=
  String.ofList (Text.joinWith '|' (texts.map String.toList))

/-- The raw value that texts have under an operator. -/
def carried (texts : List String) : Operator → Value
  | .eq => .list (texts.map .text)
  | .ne => .list (texts.map .text)
  | _ => .text (piped texts)

/-- The pair that spells texts for a field under an operator. -/
def wire (name : String) (texts : List String) : Operator → String × Value
  | .eq => (name, .list (texts.map .text))
  | .ne => (name ++ "!", .list (texts.map .text))
  | .bt => (name ++ "<>" ++ piped texts, .text "")
  | .gt => (name ++ ">" ++ piped texts, .text "")
  | .gte => (name ++ ">", .text (piped texts))
  | .lte => (name ++ "<", .text (piped texts))
  | .lt => (name ++ "<" ++ piped texts, .text "")
  | .regex => (name ++ "$", .text (piped texts))

/-- Texts with their values that an operator may be spelled with. A pattern stands alone, for the
pipe is a part of it. -/
structure Spellable (op : Operator) (literals : List (String × Value)) : Prop where
  ne_nil : literals ≠ []
  legible : ∀ l ∈ literals, Legible l.1 l.2
  no_mark : op ≠ .regex → ∀ l ∈ literals, ∀ c ∈ l.1.toList, c ≠ '|' ∧ c ≠ '<' ∧ c ≠ '>'
  single : op = .regex → ∃ l, literals = [l]

theorem toList_piped (texts : List String) :
    (piped texts).toList = Text.joinWith '|' (texts.map String.toList) :=
  String.toList_ofList

theorem piped_singleton (text : String) : piped [text] = text := String.ofList_toList

theorem Text.mem_joinWith {mark c : Char} {texts : List (List Char)}
    (h : c ∈ joinWith mark texts) : c = mark ∨ ∃ text ∈ texts, c ∈ text := by
  induction texts with
  | nil => exact nomatch h
  | cons text rest ih =>
      cases rest with
      | nil => exact .inr ⟨text, List.mem_cons_self, h⟩
      | cons next more =>
          rw [joinWith_cons_cons, List.mem_append, List.mem_cons] at h
          rcases h with h | rfl | h
          · exact .inr ⟨text, List.mem_cons_self, h⟩
          · exact .inl rfl
          · rcases ih h with rfl | ⟨t, ht, hc⟩
            · exact .inl rfl
            · exact .inr ⟨t, List.mem_cons_of_mem _ ht, hc⟩

theorem isNullText_of_pipe_mem {s : String} (h : '|' ∈ s.toList) : isNullText s = false := by
  rw [isNullText, Bool.or_eq_false_iff, beq_eq_false_iff_ne, beq_eq_false_iff_ne]
  constructor
  · intro heq
    subst heq
    exact absurd h (by decide)
  · intro heq
    subst heq
    exact absurd h (by decide)

namespace Spellable

variable {op : Operator} {literals : List (String × Value)}

theorem mem_texts {P : List Char → Prop} (h : ∀ l ∈ literals, P l.1.toList) :
    ∀ cs ∈ (literals.map Prod.fst).map String.toList, P cs := by
  intro cs hcs
  rw [List.map_map] at hcs
  obtain ⟨l, hl, rfl⟩ := List.mem_map.mp hcs
  exact h l hl

theorem toList_ne_nil (h : Spellable op literals) : ∀ l ∈ literals, l.1.toList ≠ [] := by
  intro l hl hnil
  exact (h.legible l hl).ne_empty (String.toList_eq_nil_iff.mp hnil)

theorem piped_trimmed (h : Spellable op literals) :
    Text.IsTrimmed (piped (literals.map Prod.fst)).toList := by
  rw [toList_piped]
  exact Text.isTrimmed_joinWith (mem_texts (P := fun cs => cs ≠ [] ∧ Text.IsTrimmed cs)
    fun l hl => ⟨h.toList_ne_nil l hl, (h.legible l hl).trimmed⟩)

/-- Texts with pipes between them are not the text for null: a single one is legible, and there is
no pipe in that text. -/
theorem piped_not_null (h : Spellable op literals) :
    isNullText (piped (literals.map Prod.fst)) = false := by
  cases literals with
  | nil => exact absurd rfl h.ne_nil
  | cons first rest =>
      cases rest with
      | nil =>
          rw [List.map_singleton, piped_singleton]
          exact (h.legible first List.mem_cons_self).not_null
      | cons second more =>
          refine isNullText_of_pipe_mem ?_
          rw [toList_piped]
          simp [Text.joinWith_cons_cons]

theorem piped_ne_empty (h : Spellable op literals) : piped (literals.map Prod.fst) ≠ "" := by
  intro hempty
  have hnil := congrArg String.toList hempty
  rw [toList_piped] at hnil
  cases literals with
  | nil => exact absurd rfl h.ne_nil
  | cons first rest =>
      have hfirst := h.toList_ne_nil first List.mem_cons_self
      cases rest with
      | nil => exact hfirst hnil
      | cons second more => simp [Text.joinWith_cons_cons] at hnil

theorem piped_no_mark (h : Spellable op literals) (hop : op ≠ .regex) :
    '<' ∉ (piped (literals.map Prod.fst)).toList ∧ '>' ∉ (piped (literals.map Prod.fst)).toList := by
  have hall : ∀ c ∈ (piped (literals.map Prod.fst)).toList, c ≠ '<' ∧ c ≠ '>' := by
    intro c hc
    rw [toList_piped] at hc
    rcases Text.mem_joinWith hc with rfl | ⟨cs, hcs, hc⟩
    · decide
    · exact mem_texts (P := fun cs => ∀ c ∈ cs, c ≠ '<' ∧ c ≠ '>')
        (fun l hl c hc => (h.no_mark hop l hl c hc).2) cs hcs c hc
  exact ⟨fun hc => (hall _ hc).1 rfl, fun hc => (hall _ hc).2 rfl⟩

end Spellable

theorem IsFieldName.no_mark_mem {name : String} (h : IsFieldName name) :
    '<' ∉ name.toList ∧ '>' ∉ name.toList :=
  ⟨fun hc => (h.no_mark _ hc).1 rfl, fun hc => (h.no_mark _ hc).2 rfl⟩

theorem IsFieldName.no_suffix {name : String} (h : IsFieldName name) :
    ∀ c ∈ name.toList.getLast?, suffixOperator? c = none := by
  intro c hc
  obtain ⟨hne, hregex⟩ := h.last c hc
  obtain ⟨hlower, hupper⟩ := h.no_mark c (List.mem_of_getLast? hc)
  unfold suffixOperator?
  split
  · exact absurd rfl hne
  · exact absurd rfl hlower
  · exact absurd rfl hupper
  · exact absurd rfl hregex
  · rfl

/-- Does the operator's pair hold its texts in the key? -/
def inKey : Operator → Bool
  | .bt => true
  | .gt => true
  | .lt => true
  | _ => false

theorem wire_value_of_inKey {op : Operator} (hop : inKey op = true) (name : String)
    (texts : List String) : (wire name texts op).2 = .text "" := by
  rcases op with op | op <;> cases op <;> first | rfl | cases hop

theorem wire_isTruthy {op : Operator} {literals : List (String × Value)}
    (h : Spellable op literals) (hop : inKey op = false) (name : String) :
    (wire name (literals.map Prod.fst) op).2.isTruthy = true := by
  have hlist : (Value.list ((literals.map Prod.fst).map .text)).isTruthy = true := by
    simpa [Value.isTruthy] using h.ne_nil
  have htext : (Value.text (piped (literals.map Prod.fst))).isTruthy = true := by
    simpa [Value.isTruthy] using h.piped_ne_empty
  rcases op with op | op <;> cases op <;> first | exact hlist | exact htext | cases hop

/-- A pair is read as what it spells. -/
theorem read_wire {name : String} (hname : IsFieldName name) {op : Operator}
    {literals : List (String × Value)} (h : Spellable op literals) :
    Token.read (wire name (literals.map Prod.fst) op).1 (wire name (literals.map Prod.fst) op).2 =
      ⟨name, carried (literals.map Prod.fst) op, op⟩ := by
  have hnull : readNull (.text (piped (literals.map Prod.fst))) =
      .text (piped (literals.map Prod.fst)) := by
    simp only [readNull]
    simp [h.piped_not_null]
  have hkey : ∀ mark : String, (name ++ mark ++ piped (literals.map Prod.fst)).toList =
      name.toList ++ (mark.toList ++ (piped (literals.map Prod.fst)).toList) := by
    intro mark
    rw [String.toList_append, String.toList_append, List.append_assoc]
  have hpieces : ∀ {key : String} {op : Operator}, Token.pieces key.toList =
      (op, [name.toList, (piped (literals.map Prod.fst)).toList]) →
        Token.read key (.text "") = ⟨name, .text (piped (literals.map Prod.fst)), op⟩ := by
    intro key op hkey
    rw [Token.read_of_pieces hkey, Text.strip, Text.trim_of_isTrimmed h.piped_trimmed,
      String.ofList_toList, hnull]
  have hsuffix : ∀ (c : Char) {op : Operator}, suffixOperator? c = some op →
      Token.read (name ++ String.singleton c) (.text (piped (literals.map Prod.fst))) =
        ⟨name, .text (piped (literals.map Prod.fst)), op⟩ := by
    intro c op hc
    have hkey : (name ++ String.singleton c).toList = name.toList ++ [c] := by simp
    have htruthy : (Value.text (piped (literals.map Prod.fst))).isTruthy = true := by
      simpa [Value.isTruthy] using h.piped_ne_empty
    rw [Token.read_of_suffix hkey hc htruthy, hnull]
  rcases op with op | op <;> cases op
  · exact Token.read_of_no_suffix hname.no_suffix (wire_isTruthy h rfl name)
  · exact Token.read_of_suffix (c := '!') String.toList_append rfl (wire_isTruthy h rfl name)
  · refine hpieces ((congrArg Token.pieces (hkey "<>")).trans ?_)
    exact Token.pieces_bt hname.no_mark_mem.1 (h.piped_no_mark (by decide)).1
  · exact hsuffix '$' rfl
  · refine hpieces ((congrArg Token.pieces (hkey ">")).trans ?_)
    exact Token.pieces_gt hname.no_mark_mem (h.piped_no_mark (by decide))
  · exact hsuffix '>' rfl
  · exact hsuffix '<' rfl
  · refine hpieces ((congrArg Token.pieces (hkey "<")).trans ?_)
    exact Token.pieces_lt hname.no_mark_mem (h.piped_no_mark (by decide))

/-! ## Keys are told apart -/

/-- Which field and operator a key with a value is read as does not depend on the value. -/
theorem Token.read_congr {v w : Value} (hv : v.isTruthy = true) (hw : w.isTruthy = true)
    (key : String) : (read key v).name = (read key w).name ∧
      (read key v).operator = (read key w).operator := by
  have hpair : (ofPair key v).name = (ofPair key w).name ∧
      (ofPair key v).operator = (ofPair key w).operator := by
    unfold ofPair
    dsimp only
    cases key.toList.getLast?.bind suffixOperator? with
    | none => exact ⟨rfl, rfl⟩
    | some op => exact ⟨rfl, rfl⟩
  unfold read
  rw [if_pos hv, if_pos hw]
  exact hpair

section Keys

variable {name : String} {op : Operator} {literals : List (String × Value)}

/-- A key that holds its texts has a bracket in it, and a text at its end. -/
theorem wire_key_of_inKey (h : Spellable op literals) (hop : inKey op = true) :
    (∃ c ∈ (wire name (literals.map Prod.fst) op).1.toList, c = '<' ∨ c = '>') ∧
      ∀ c ∈ (wire name (literals.map Prod.fst) op).1.toList.getLast?, c ≠ '<' ∧ c ≠ '>' := by
  have hregex : op ≠ .regex := by
    intro heq
    subst heq
    exact nomatch hop
  obtain ⟨hlower, hupper⟩ := h.piped_no_mark hregex
  have hne : (piped (literals.map Prod.fst)).toList ≠ [] := fun hnil =>
    h.piped_ne_empty (String.toList_eq_nil_iff.mp hnil)
  have hkey : ∀ mark : String, (∃ c ∈ mark.toList, c = '<' ∨ c = '>') →
      (∃ c ∈ (name ++ mark ++ piped (literals.map Prod.fst)).toList, c = '<' ∨ c = '>') ∧
        ∀ c ∈ (name ++ mark ++ piped (literals.map Prod.fst)).toList.getLast?,
          c ≠ '<' ∧ c ≠ '>' := by
    intro mark hgiven
    obtain ⟨c, hc, hbracket⟩ := hgiven
    rw [String.toList_append, String.toList_append]
    refine ⟨⟨c, by simp [hc], hbracket⟩, fun d hd => ?_⟩
    -- the key ends as its texts end
    rw [List.getLast?_append_of_ne_nil _ hne] at hd
    have hmem := List.mem_of_getLast? hd
    exact ⟨fun hd => hlower (hd ▸ hmem), fun hd => hupper (hd ▸ hmem)⟩
  rcases op with op | op <;> cases op
  · exact nomatch hop
  · exact nomatch hop
  · exact hkey "<>" ⟨'<', by decide, .inl rfl⟩
  · exact nomatch hop
  · exact hkey ">" ⟨'>', by decide, .inr rfl⟩
  · exact nomatch hop
  · exact nomatch hop
  · exact hkey "<" ⟨'<', by decide, .inl rfl⟩

/-- A key beside a value has no bracket but at its end. -/
theorem wire_key_of_not_inKey (hname : IsFieldName name) (hop : inKey op = false)
    (texts : List String) : ∀ c ∈ (wire name texts op).1.toList, c = '<' ∨ c = '>' →
      (wire name texts op).1.toList.getLast? = some c := by
  have hbare : ∀ c ∈ name.toList, ¬(c = '<' ∨ c = '>') := by
    intro c hc hbracket
    obtain ⟨hlower, hupper⟩ := hname.no_mark c hc
    exact hbracket.elim hlower hupper
  have hmarked : ∀ mark : Char, ∀ c ∈ (name ++ String.singleton mark).toList, c = '<' ∨ c = '>' →
      (name ++ String.singleton mark).toList.getLast? = some c := by
    intro mark c hc hbracket
    rw [String.toList_append, String.toList_singleton] at hc ⊢
    rcases List.mem_append.mp hc with hc | hc
    · exact absurd hbracket (hbare c hc)
    · rw [List.getLast?_append_of_ne_nil _ (List.cons_ne_nil _ _), List.mem_singleton.mp hc]
      rfl
  rcases op with op | op <;> cases op
  · exact fun c hc hbracket => absurd hbracket (hbare c hc)
  · exact hmarked '!'
  · exact nomatch hop
  · exact hmarked '$'
  · exact nomatch hop
  · exact hmarked '>'
  · exact hmarked '<'
  · exact nomatch hop

end Keys

/-- Pairs with the same key spell the same operator of the same field. -/
theorem wire_key_inj {name name' : String} (hname : IsFieldName name) (hname' : IsFieldName name')
    {op op' : Operator} {literals literals' : List (String × Value)} (h : Spellable op literals)
    (h' : Spellable op' literals')
    (hkey : (wire name (literals.map Prod.fst) op).1 = (wire name' (literals'.map Prod.fst) op').1) :
    name = name' ∧ op = op' := by
  have hread := read_wire hname h
  have hread' := read_wire hname' h'
  rw [← hkey] at hread'
  cases hop : inKey op with
  | true =>
      cases hop' : inKey op' with
      | true =>
          -- both keys stand beside the empty text
          rw [wire_value_of_inKey hop] at hread
          rw [wire_value_of_inKey hop', hread] at hread'
          exact ⟨congrArg Token.name hread', congrArg Token.operator hread'⟩
      | false =>
          obtain ⟨⟨c, hc, hbracket⟩, hlast⟩ := wire_key_of_inKey h hop
          rw [hkey] at hc hlast
          have hend := wire_key_of_not_inKey hname' hop' _ c hc hbracket
          exact absurd hbracket (not_or.mpr (hlast c hend))
  | false =>
      cases hop' : inKey op' with
      | true =>
          obtain ⟨⟨c, hc, hbracket⟩, hlast⟩ := wire_key_of_inKey h' hop'
          rw [← hkey] at hc hlast
          have hend := wire_key_of_not_inKey hname hop _ c hc hbracket
          exact absurd hbracket (not_or.mpr (hlast c hend))
      | false =>
          obtain ⟨hn, ho⟩ := Token.read_congr (wire_isTruthy h hop name)
            (wire_isTruthy h' hop' name')
            (wire name (literals.map Prod.fst) op).1
          rw [hread, hread'] at hn ho
          exact ⟨hn, ho⟩

/-! ## Values -/

theorem pipePieces_of_no_mark {text : String} (h : '|' ∉ text.toList) :
    pipePieces text = [text.toList] :=
  Text.splitAt_of_not_mem h

/-- The pieces of texts with pipes between them are the pieces of each text, in order. -/
theorem pipePieces_piped {texts : List String} (hne : texts ≠ []) :
    pipePieces (piped texts) = texts.flatMap pipePieces := by
  unfold pipePieces
  rw [toList_piped, Text.splitAt_joinWith (by simpa using hne), List.flatMap_map]

/-- The pieces of a list are the pieces of its texts, as they are. -/
theorem flatMap_elementPieces (texts : List String) :
    (texts.map Value.text).flatMap elementPieces =
      (texts.flatMap pipePieces).map fun cs => .text (String.ofList cs) := by
  rw [List.flatMap_map, List.map_flatMap]
  rfl

/-- Texts that no mark cuts are pieces. -/
theorem flatMap_pipePieces_of_no_mark {texts : List String}
    (h : ∀ text ∈ texts, '|' ∉ text.toList) : texts.flatMap pipePieces = texts.map String.toList := by
  rw [List.map_eq_flatMap]
  exact List.flatMap_congr fun text htext => pipePieces_of_no_mark (h text htext)

/-- The pieces of a text with marks are the texts that the marks separate. -/
theorem map_pipePieces_piped {texts : List String} (hne : texts ≠ [])
    (h : ∀ text ∈ texts, '|' ∉ text.toList ∧ Text.IsTrimmed text.toList) :
    (pipePieces (piped texts)).map (fun cs => Value.text (String.ofList (Text.trim cs))) =
      texts.map .text := by
  rw [pipePieces_piped hne, flatMap_pipePieces_of_no_mark fun text ht => (h text ht).1, List.map_map]
  refine List.map_congr_left fun text htext => ?_
  simp [Text.trim_of_isTrimmed (h text htext).2]

/-- The pieces of the raw value are the texts. -/
theorem rawPieces_carried {op : Operator} {literals : List (String × Value)}
    (h : Spellable op literals) :
    rawPieces op (carried (literals.map Prod.fst) op) = (literals.map Prod.fst).map .text := by
  have hne : literals.map Prod.fst ≠ [] := by
    simpa using h.ne_nil
  have hbare : op ≠ .regex → ∀ text ∈ literals.map Prod.fst,
      '|' ∉ text.toList ∧ Text.IsTrimmed text.toList := by
    intro hop text htext
    obtain ⟨l, hl, rfl⟩ := List.mem_map.mp htext
    exact ⟨fun hc => (h.no_mark hop l hl _ hc).1 rfl, (h.legible l hl).trimmed⟩
  have hlist : op ≠ .regex → ((literals.map Prod.fst).map Value.text).flatMap elementPieces =
      (literals.map Prod.fst).map .text := by
    intro hop
    rw [flatMap_elementPieces, flatMap_pipePieces_of_no_mark fun text ht => (hbare hop text ht).1,
      List.map_map]
    exact List.map_congr_left fun text _ => congrArg Value.text String.ofList_toList
  have htext : op ≠ .regex → (pipePieces (piped (literals.map Prod.fst))).map
      (fun cs => Value.text (String.ofList (Text.trim cs))) = (literals.map Prod.fst).map .text :=
    fun hop => map_pipePieces_piped hne (hbare hop)
  rcases op with op | op <;> cases op
  · exact hlist (by decide)
  · exact hlist (by decide)
  · exact htext (by decide)
  · -- a pattern is one piece, whatever it holds
    obtain ⟨l, rfl⟩ := h.single rfl
    have htrim := Text.trim_of_isTrimmed (h.legible l List.mem_cons_self).trimmed
    simp [carried, rawPieces, piped_singleton, Text.strip, htrim]
  · exact htext (by decide)
  · exact htext (by decide)
  · exact htext (by decide)
  · exact htext (by decide)

theorem mapM_convertPiece {literals : List (String × Value)}
    (h : ∀ l ∈ literals, convertPiece (.text l.1) = .ok l.2) :
    ((literals.map Prod.fst).map Value.text).mapM convertPiece = .ok (literals.map Prod.snd) := by
  rw [List.map_map, List.mapM_map]
  exact Except.mapM_of_forall h

/-- The pair that spells texts adds the values that they stand for, and nothing is reported. -/
theorem contribution?_wire (cfg : Config) {name : String} (hname : IsFieldName name)
    {op : Operator} {literals : List (String × Value)} (h : Spellable op literals) :
    ({} : Schema).contribution? cfg (wire name (literals.map Prod.fst) op) =
      ⟨[], .ok (some ⟨.text name, op, literals.map Prod.snd⟩)⟩ := by
  rw [Schema.contribution?_schemaless, read_wire hname h, if_neg hname.ne_empty,
    Token.contribution?_schemaless]
  have hconvert : (Token.mk name (carried (literals.map Prod.fst) op) op).convert =
      .ok (literals.map Prod.snd) := by
    simp only [Token.convert]
    rw [rawPieces_carried h, mapM_convertPiece fun l hl => (h.legible l hl).convert]
  have hne : (literals.map Prod.snd).isEmpty = false := by
    simpa using h.ne_nil
  rw [hconvert]
  simp only [Except.map, hne]
  rfl

end QueryFilter
