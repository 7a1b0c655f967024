import QueryFilter.Text.Blank
import QueryFilter.Text.Split
import Mathlib.Data.List.Infix
import Mathlib.Data.List.TakeWhile

/-!
# QueryFilter.Proofs.Cutting

Cutting and trimming seen from the other side: which texts come back from a text that was put
together.

* `splitAt_append_mark`: a mark ends one run of pieces and begins the next.
* `splitAt_joinWith`: the pieces of joined texts are the pieces of each of them.
* `splitAtPair_append`, `splitAtPair_of_not_infix`: the same for a pair of marks, and texts that hold
  none.
* `occurrences`, `Cuts`: how often a text holds a mark, and what both ways of cutting have in common.
* `trim_of_isTrimmed`, `isTrimmed_trim`, `isTrimmed_joinWith`: texts that lose nothing at their ends.
* `trim_append`: texts with blanks put around them.
-/

namespace QueryFilter.Text

variable {mark first second : Char}

/-! ## One mark -/

theorem consPiece_append (c : Char) {pieces : List (List Char)} (h : pieces ≠ [])
    (more : List (List Char)) : consPiece c (pieces ++ more) = consPiece c pieces ++ more := by
  cases pieces with
  | nil => exact absurd rfl h
  | cons piece rest => rfl

/-- A mark ends one run of pieces and begins the next. -/
theorem splitAt_append_mark (cs rest : List Char) :
    splitAt mark (cs ++ mark :: rest) = splitAt mark cs ++ splitAt mark rest := by
  induction cs with
  | nil => simp [splitAt]
  | cons c cs ih =>
      rw [List.cons_append, splitAt, splitAt, ih]
      split
      · rfl
      · exact consPiece_append c (splitAt_ne_nil mark cs) _

theorem joinWith_cons_cons (text next : List Char) (more : List (List Char)) :
    joinWith mark (text :: next :: more) = text ++ mark :: joinWith mark (next :: more) := rfl

theorem splitAt_of_not_mem {cs : List Char} (h : mark ∉ cs) : splitAt mark cs = [cs] := by
  induction cs with
  | nil => rfl
  | cons c cs ih =>
      rw [List.mem_cons, not_or] at h
      rw [splitAt, if_neg (Ne.symm h.1), ih h.2]
      rfl

/-- The pieces of joined texts are the pieces of each of them, in order. -/
theorem splitAt_joinWith {texts : List (List Char)} (hne : texts ≠ []) :
    splitAt mark (joinWith mark texts) = texts.flatMap (splitAt mark) := by
  induction texts with
  | nil => exact absurd rfl hne
  | cons text rest ih =>
      cases rest with
      | nil => simp [joinWith]
      | cons next more =>
          rw [joinWith_cons_cons, splitAt_append_mark, ih (List.cons_ne_nil _ _)]
          rfl

/-! ## A pair of marks -/

theorem splitAtPair_ne_nil (first second : Char) (cs : List Char) :
    splitAtPair first second cs ≠ [] := by
  fun_induction splitAtPair first second cs with
  | case1 => simp
  | case2 c => simp
  | case3 => simp
  | case4 c d rest h ih => cases hs : splitAtPair first second (d :: rest) <;> simp [consPiece]

/-- A pair of different marks ends one run of pieces and begins the next. -/
theorem splitAtPair_append (h : first ≠ second) (cs rest : List Char) :
    splitAtPair first second (cs ++ first :: second :: rest) =
      splitAtPair first second cs ++ splitAtPair first second rest := by
  fun_induction splitAtPair first second cs with
  | case1 => simp [splitAtPair]
  | case2 c =>
      -- a mark before the pair does not take its first mark away
      have hnot : ¬(c = first ∧ first = second) := fun hpair => h hpair.2
      simp [splitAtPair, hnot, consPiece]
  | case3 c d tail hpair ih => simp [splitAtPair, hpair, ih]
  | case4 c d tail hpair ih =>
      rw [List.cons_append, List.cons_append, splitAtPair, if_neg hpair, ← List.cons_append, ih]
      exact consPiece_append c (splitAtPair_ne_nil first second _) _

theorem splitAtPair_of_not_infix {cs : List Char} (h : ¬[first, second] <:+: cs) :
    splitAtPair first second cs = [cs] := by
  fun_induction splitAtPair first second cs with
  | case1 => rfl
  | case2 c => rfl
  | case3 c d rest hpair ih =>
      obtain ⟨rfl, rfl⟩ := hpair
      exact absurd ⟨[], rest, rfl⟩ h
  | case4 c d rest hpair ih =>
      rw [ih fun hoccurs => h (hoccurs.trans (List.suffix_cons c _).isInfix)]
      rfl

/-! ## Occurrences -/

/-- How often a mark occurs in a text: at how many places what follows begins with it. -/
def occurrences (mark cs : List Char) : Nat := cs.tails.countP (mark <+: ·)

theorem occurrences_cons (mark : List Char) (c : Char) (cs : List Char) :
    occurrences mark (c :: cs) = occurrences mark cs + if mark <+: c :: cs then 1 else 0 := by
  simp [occurrences, List.countP_cons]

theorem occurrences_eq_zero_iff {mark cs : List Char} :
    occurrences mark cs = 0 ↔ ¬mark <:+: cs := by
  simp only [occurrences, List.countP_eq_zero, List.infix_iff_prefix_suffix, List.mem_tails,
    decide_eq_true_eq, not_exists, not_and]
  exact forall_congr' fun _ => ⟨fun h hp hs => h hs hp, fun h hs hp => h hp hs⟩

theorem length_consPiece (c : Char) {pieces : List (List Char)} (h : pieces ≠ []) :
    (consPiece c pieces).length = pieces.length := by
  cases pieces with
  | nil => exact absurd rfl h
  | cons piece rest => rfl

theorem length_splitAt (cs : List Char) :
    (splitAt mark cs).length = occurrences [mark] cs + 1 := by
  induction cs with
  | nil => rfl
  | cons c cs ih =>
      rw [splitAt, occurrences_cons]
      split
      next h => simp [h, ih]
      next h => simp [Ne.symm h, length_consPiece c (splitAt_ne_nil mark cs), ih]

theorem length_splitAtPair (h : first ≠ second) (cs : List Char) :
    (splitAtPair first second cs).length = occurrences [first, second] cs + 1 := by
  fun_induction splitAtPair first second cs with
  | case1 => rfl
  | case2 c => simp [occurrences]
  | case3 c d rest hpair ih =>
      -- no pair begins with the second mark
      obtain ⟨rfl, rfl⟩ := hpair
      simp [occurrences_cons, ih, h]
  | case4 c d rest hpair ih =>
      have hnot : ¬[first, second] <+: c :: d :: rest := by
        simpa [eq_comm] using hpair
      rw [length_consPiece c (splitAtPair_ne_nil first second _), ih, occurrences_cons _ c,
        if_neg hnot, Nat.add_zero]

/-- A function cuts texts at a mark: there is one piece more than the mark occurs, and a mark ends one
run of pieces and begins the next. -/
structure Cuts (mark : List Char) (cut : List Char → List (List Char)) : Prop where
  append : ∀ cs rest, cut (cs ++ mark ++ rest) = cut cs ++ cut rest
  length : ∀ cs, (cut cs).length = occurrences mark cs + 1
  whole : ∀ cs, ¬mark <:+: cs → cut cs = [cs]

theorem cuts_splitAt (mark : Char) : Cuts [mark] (splitAt mark) where
  append cs rest := by simpa using splitAt_append_mark cs rest
  length := length_splitAt
  whole cs h := splitAt_of_not_mem fun hmem => h ((List.singleton_infix_iff _ _).mpr hmem)

theorem cuts_splitAtPair (h : first ≠ second) :
    Cuts [first, second] (splitAtPair first second) where
  append cs rest := by simpa using splitAtPair_append h cs rest
  length := length_splitAtPair h
  whole _ := splitAtPair_of_not_infix

/-- A text that holds the mark does not stay whole. -/
theorem Cuts.ne_singleton {mark cs : List Char} {cut : List Char → List (List Char)}
    (h : Cuts mark cut) (hmark : mark <:+: cs) (piece : List Char) : cut cs ≠ [piece] := by
  intro hcut
  have hlength := h.length cs
  rw [hcut] at hlength
  have hzero : occurrences mark cs = 0 := by simpa using hlength
  exact occurrences_eq_zero_iff.mp hzero hmark

/-- A text that holds a mark once is cut into what stands before it and what stands after it. -/
theorem Cuts.eq_pair {mark cs rest : List Char} {cut : List Char → List (List Char)}
    (h : Cuts mark cut) (honce : occurrences mark (cs ++ mark ++ rest) = 1) :
    cut (cs ++ mark ++ rest) = [cs, rest] := by
  have hlength := h.length (cs ++ mark ++ rest)
  rw [h.append, List.length_append, h.length cs, h.length rest, honce] at hlength
  have hcs : occurrences mark cs = 0 := by omega
  have hrest : occurrences mark rest = 0 := by omega
  rw [h.append, h.whole cs (occurrences_eq_zero_iff.mp hcs),
    h.whole rest (occurrences_eq_zero_iff.mp hrest)]
  rfl

/-! ## Trimming -/

theorem dropWhile_of_head? {α : Type} {p : α → Bool} {l : List α}
    (h : ∀ a ∈ l.head?, p a = false) : l.dropWhile p = l := by
  cases l with
  | nil => rfl
  | cons a l => rw [List.dropWhile_cons, if_neg (by simp [h a rfl])]

/-- What is left begins with nothing that should be dropped. -/
theorem head?_dropWhile {α : Type} (p : α → Bool) (l : List α) :
    ∀ a ∈ (l.dropWhile p).head?, p a = false := by
  intro a ha
  have hnot := List.head?_dropWhile_not p l
  rw [Option.mem_def.mp ha] at hnot
  exact hnot

theorem head?_of_dropWhile {α : Type} {p : α → Bool} {l : List α} (h : l.dropWhile p = l) :
    ∀ a ∈ l.head?, p a = false := by
  intro a ha
  rw [← h] at ha
  exact head?_dropWhile p l a ha

/-- A text without blanks at its ends is trimmed to itself. -/
theorem trim_of_isTrimmed {cs : List Char} (h : IsTrimmed cs) : trim cs = cs := by
  unfold trim trimEnd trimStart
  rw [dropWhile_of_head? h.1, dropWhile_of_head?, List.reverse_reverse]
  rw [List.head?_reverse]
  exact h.2

theorem length_trimEnd_le (cs : List Char) : (trimEnd cs).length ≤ cs.length := by
  have h := (List.dropWhile_sublist (l := cs.reverse) isBlank).length_le
  simp only [trimEnd]
  rwa [List.length_reverse] at *

/-- A text that is trimmed to itself has no blanks at its ends. -/
theorem isTrimmed_of_trim_eq {cs : List Char} (h : trim cs = cs) : IsTrimmed cs := by
  have hlen : (trimEnd (trimStart cs)).length = cs.length := congrArg List.length h
  have hend := length_trimEnd_le (trimStart cs)
  -- nothing is lost at either end, for nothing is lost in all
  have hstart : cs.dropWhile isBlank = cs := by
    refine (List.dropWhile_sublist _).eq_of_length_le ?_
    show cs.length ≤ (trimStart cs).length
    omega
  have hreverse : cs.reverse.dropWhile isBlank = cs.reverse := by
    have h' : trimEnd (cs.dropWhile isBlank) = cs := h
    rw [hstart] at h'
    rw [← List.reverse_inj, List.reverse_reverse]
    exact h'
  refine ⟨head?_of_dropWhile hstart, fun c hc => head?_of_dropWhile hreverse c ?_⟩
  rwa [List.head?_reverse]

theorem trimEnd_prefix (cs : List Char) : trimEnd cs <+: cs := by
  have h := List.reverse_prefix.mpr (List.dropWhile_suffix (l := cs.reverse) isBlank)
  rwa [List.reverse_reverse] at h

/-- What is trimmed has no blanks left at its ends. -/
theorem isTrimmed_trim (cs : List Char) : IsTrimmed (trim cs) := by
  constructor
  · intro c hc
    -- what is cut at the end leaves the first character in place
    obtain ⟨tail, htail⟩ := trimEnd_prefix (trimStart cs)
    refine head?_dropWhile isBlank cs c ?_
    show c ∈ (trimStart cs).head?
    rw [← htail, List.head?_append]
    show c ∈ (trim cs).head?.or _
    rw [Option.mem_def.mp hc]
    rfl
  · intro c hc
    unfold trim trimEnd at hc
    rw [List.getLast?_reverse] at hc
    exact head?_dropWhile isBlank _ c hc

/-- Trimming twice is trimming once. -/
@[simp] theorem trim_trim (cs : List Char) : trim (trim cs) = trim cs :=
  trim_of_isTrimmed (isTrimmed_trim cs)

/-- Blanks in front of a text are trimmed away. -/
theorem trimStart_append {blanks : List Char} (h : ∀ c ∈ blanks, isBlank c = true)
    (cs : List Char) : trimStart (blanks ++ cs) = trimStart cs :=
  List.dropWhile_append_of_pos h

/-- Blanks behind a text are trimmed away. -/
theorem trimEnd_append {blanks : List Char} (h : ∀ c ∈ blanks, isBlank c = true)
    (cs : List Char) : trimEnd (cs ++ blanks) = trimEnd cs := by
  unfold trimEnd
  rw [List.reverse_append, List.dropWhile_append_of_pos fun c hc => h c (List.mem_reverse.mp hc)]

/-- Blanks around a text are trimmed away with those at its ends. -/
theorem trim_append {before after : List Char} (hbefore : ∀ c ∈ before, isBlank c = true)
    (hafter : ∀ c ∈ after, isBlank c = true) (cs : List Char) :
    trim (before ++ cs ++ after) = trim cs := by
  unfold trim
  rw [List.append_assoc, trimStart_append hbefore]
  cases hempty : (trimStart cs).isEmpty with
  | true =>
      -- a text of nothing but blanks, and what follows it is no different
      have hnil : trimStart cs = [] := List.isEmpty_iff.mp hempty
      have hall : ∀ c ∈ cs ++ after, isBlank c = true := by
        intro c hc
        rcases List.mem_append.mp hc with hc | hc
        · exact List.dropWhile_eq_nil_iff.mp hnil c hc
        · exact hafter c hc
      rw [hnil, trimStart, List.dropWhile_eq_nil_iff.mpr hall]
  | false =>
      have happend : trimStart (cs ++ after) = trimStart cs ++ after := by
        unfold trimStart at hempty ⊢
        rw [List.dropWhile_append, hempty]
        rfl
      rw [happend, trimEnd_append hafter]

theorem isTrimmed_of_forall {cs : List Char} (h : ∀ c ∈ cs, isBlank c = false) : IsTrimmed cs :=
  ⟨fun c hc => h c (List.mem_of_head? hc), fun c hc => h c (List.mem_of_getLast? hc)⟩

/-- The ends of joined texts are ends of the texts. -/
theorem isTrimmed_joinWith {texts : List (List Char)}
    (h : ∀ text ∈ texts, text ≠ [] ∧ IsTrimmed text) : IsTrimmed (joinWith mark texts) := by
  induction texts with
  | nil => exact ⟨by simp [joinWith], by simp [joinWith]⟩
  | cons text rest ih =>
      obtain ⟨hne, hhead, hlast⟩ := h text List.mem_cons_self
      have hrest := ih fun t ht => h t (List.mem_cons_of_mem _ ht)
      cases rest with
      | nil => exact ⟨hhead, hlast⟩
      | cons next more =>
          -- the last character is that of the later texts, which are not empty
          have hjoin : joinWith mark (next :: more) ≠ [] := by
            have hnext := (h next (List.mem_cons_of_mem _ List.mem_cons_self)).1
            cases more with
            | nil => exact hnext
            | cons m ms => simp [joinWith]
          rw [joinWith_cons_cons]
          refine ⟨?_, ?_⟩
          · rw [List.head?_append_of_ne_nil _ hne]
            exact hhead
          · rw [List.getLast?_append_of_ne_nil _ (List.cons_ne_nil _ _),
              List.getLast?_cons_of_ne_nil hjoin]
            exact hrest.2

end QueryFilter.Text
