import QueryFilter.Proofs.Wire

/-!
# QueryFilter.Proofs.Pieces

Several texts for one field are given as a list, or as one text with pipes between them. A text is
cut and its pieces are trimmed before they are converted; the texts of a list are cut only. The two
are the same to a conversion that makes nothing of the blanks around a text.

* `IgnoresBlanks`: such a conversion; `ignoresBlanks_standard`: the standard one is.
* `readValues_text`, `readValues_texts`: what is converted of a text and of a list of texts.
* `readValues_intercalate`: a list of texts, and these texts with pipes between them.
-/

namespace QueryFilter

/-! ## Blanks -/

/-- The conversion of a text is that of the text without the blanks around it. -/
def IgnoresBlanks (convert : Value → Except Fault Value) : Prop :=
  ∀ s, convert (.text (Text.strip s)) = convert (.text s)

theorem Text.strip_strip (s : String) : strip (strip s) = strip s := by
  simp only [strip, String.toList_ofList, trim_trim]

/-- Neither the number that a text spells nor the trimmed text depends on blanks around the text. -/
theorem ignoresBlanks_standard (conversions : Conversions) :
    IgnoresBlanks (Coercion.standard.apply conversions) := by
  intro s
  simp only [Coercion.apply, toStandard]
  rw [readNumber_strip, Text.strip_strip]

/-! ## Pieces -/

variable {conversions : Conversions} {coercion : Coercion}

/-- What is converted of a list of texts: their pieces, as they are. -/
theorem readValues_texts (op : Operator) (texts : List String) :
    readValues conversions coercion op (.list (texts.map .text)) =
      (texts.flatMap pipePieces).mapM fun cs =>
        coercion.apply conversions (.text (String.ofList cs)) := by
  unfold readValues
  rw [rawPieces, flatMap_elementPieces, List.mapM_map]
  rfl

/-- What is converted of a text that is no pattern: its pieces, which are trimmed first. -/
theorem readValues_text (h : IgnoresBlanks (coercion.apply conversions)) {op : Operator}
    (hop : op ≠ .regex) (s : String) :
    readValues conversions coercion op (.text s) =
      (pipePieces s).mapM fun cs => coercion.apply conversions (.text (String.ofList cs)) := by
  have hpiece : ∀ cs, coercion.applyTo conversions (.text (String.ofList (Text.trim cs))) =
      coercion.apply conversions (.text (String.ofList cs)) := by
    intro cs
    rw [← h, Text.strip_ofList]
    rfl
  unfold readValues
  rw [rawPieces, if_neg hop, List.mapM_map]
  exact congrArg (fun f => (pipePieces s).mapM f) (funext hpiece)

/-! ## Texts that are joined -/

theorem piped_eq_intercalate (texts : List String) : piped texts = "|".intercalate texts := by
  rw [← String.toList_inj, toList_piped, String.toList_intercalate]
  induction texts with
  | nil => rfl
  | cons text rest ih =>
      cases rest with
      | nil => simp [Text.joinWith]
      | cons next more =>
          rw [List.map_cons, List.map_cons, Text.joinWith_cons_cons, List.intercalate_cons_cons,
            ← List.map_cons, ih, List.append_assoc]
          rfl

/-- **Joined by pipes or in a list.** One or more texts with pipes between them carry the values that
a list of these texts carries, whatever pipes and blanks there are in them, except where the pipe
belongs to a pattern. These are the pieces of each text, converted one by one; where one of them
cannot be converted, both ways fail and the faults are the same. -/
theorem readValues_intercalate (conversions : Conversions) {texts : List String} (hne : texts ≠ [])
    {op : Operator} (hop : op ≠ .regex) :
    readValues conversions .standard op (.text ("|".intercalate texts)) =
        readValues conversions .standard op (.list (texts.map .text)) ∧
      readValues conversions .standard op (.list (texts.map .text)) =
        (texts.flatMap pipePieces).mapM fun cs => toStandard (.text (String.ofList cs)) := by
  have hlist : readValues conversions .standard op (.list (texts.map .text)) =
      (texts.flatMap pipePieces).mapM fun cs => toStandard (.text (String.ofList cs)) :=
    readValues_texts op texts
  refine ⟨?_, hlist⟩
  rw [hlist, ← piped_eq_intercalate, readValues_text (ignoresBlanks_standard conversions) hop,
    pipePieces_piped hne]
  rfl

/-- Blanks inside and outside, an empty text, and a pipe in one of the texts. -/
theorem readValues_intercalate_blanks :
    ["a| 12 ", "", " b c\t"] ≠ [] ∧ Operator.gt ≠ .regex ∧
    readValues (fun _ v => .ok v) .standard .gt (.text ("|".intercalate ["a| 12 ", "", " b c\t"])) =
      .ok [.text "a", .int 12, .text "", .text "b c"] := by
  have hne : ["a| 12 ", "", " b c\t"] ≠ [] := List.cons_ne_nil _ _
  have hop : Operator.gt ≠ .regex := by decide
  obtain ⟨htext, hlist⟩ := readValues_intercalate (fun _ v => .ok v) hne hop
  refine ⟨hne, hop, ?_⟩
  rw [htext, hlist]
  rfl

end QueryFilter
