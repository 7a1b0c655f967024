import QueryFilter.Proofs.Wire
import Mathlib.Data.Nat.Digits.Defs

/-!
# QueryFilter.Proofs.Numerals

What is read of a text, whatever the text is: nothing, an integer, a floating-point number or a fault.
Which of these it is, is told by the grammar of the text between its blanks, and an integer is worth
what its digits are worth by their places.

* `Text.ofDigits_eq`, `literalValue`: digits by their places.
* `Spelled.exists_literal_iff`: the literals among the numbers, by the characters in them.
* `readNumber_eq_int_iff`, `exists_float_iff`: which texts are read as integers and which as
  floating-point numbers.
* `readNumber_iff`: when a text is read in which way.
-/

namespace QueryFilter

/-! ## Integer literals -/

/-- Digits are worth the same by their places, of which the last one counts one. -/
theorem Text.ofDigits_eq (digits : List Nat) : ofDigits digits = Nat.ofDigits 10 digits.reverse := by
  induction digits using List.reverseRecOn with
  | nil => rfl
  | append_singleton digits d ih =>
      rw [ofDigits_concat, ih, List.reverse_concat, Nat.ofDigits_cons, Nat.add_comm]

/-- What a literal is worth: the sum of its digits by their places, with its sign. -/
def literalValue (sign digits : List Char) : Int :=
  Numeral.signed (sign == ['-']) (Nat.ofDigits 10 (Text.digitValues digits).reverse)

variable {s : String} {cs sign digits : List Char}

/-- The characters of a literal are its sign and its digits. -/
theorem IsLiteral.not_mem (h : IsLiteral cs sign digits) {c : Char}
    (hc : (c == '+' || c == '-' || Text.isDigit c) = false) : c ∉ cs := by
  simp only [Bool.or_eq_false_iff, beq_eq_false_iff_ne] at hc
  obtain ⟨⟨hplus, hminus⟩, hdigit⟩ := hc
  rw [h.eq_append, List.mem_append, not_or]
  constructor
  · cases h.optionalSign with
    | absent => exact List.not_mem_nil
    | plus => exact fun hmem => hplus (List.mem_singleton.mp hmem)
    | minus => exact fun hmem => hminus (List.mem_singleton.mp hmem)
  · intro hmem
    rw [h.isDigits.2 c hmem] at hdigit
    exact nomatch hdigit

/-- Among the numbers, literals are told by the characters alone: there is no point in them and no
letter of an exponent. -/
theorem Spelled.exists_literal_iff (h : Spelled cs) :
    (∃ sign digits, IsLiteral cs sign digits) ↔ '.' ∉ cs ∧ 'e' ∉ cs ∧ 'E' ∉ cs := by
  constructor
  · rintro ⟨sign, digits, hliteral⟩
    exact ⟨hliteral.not_mem (by decide), hliteral.not_mem (by decide),
      hliteral.not_mem (by decide)⟩
  · rintro ⟨hpoint, hlower, hupper⟩
    cases h with
    | @mk sign mantissa exponent hsign hmantissa hexponent =>
        cases hexponent with
        | present hmark =>
            rcases hmark with rfl | rfl
            · exact absurd (by simp) hlower
            · exact absurd (by simp) hupper
        | absent =>
            cases hmantissa with
            | whole hdigits => exact ⟨sign, mantissa, hsign, hdigits, List.append_nil _⟩
            | pointed => exact absurd (by simp) hpoint
            | fraction => exact absurd (by simp) hpoint

/-! ## Integers and floating-point numbers -/

theorem readNumber_eq_int_iff {n : Int} :
    readNumber s = .ok (some (.int n)) ↔
      ∃ sign digits, IsLiteral (Text.trim s.toList) sign digits ∧
        digits.length ≤ Numeral.maxIntegerDigits ∧ n = literalValue sign digits := by
  unfold literalValue
  constructor
  · intro h
    have hreads := reads_readNumber s
    rw [h] at hreads
    cases hreads with
    | int hliteral hshort => exact ⟨_, _, hliteral, hshort, by rw [Text.ofDigits_eq]⟩
  · rintro ⟨sign, digits, hliteral, hshort, rfl⟩
    rw [hliteral.readNumber_eq, if_neg (Nat.not_lt.mpr hshort), Text.ofDigits_eq]

theorem exists_float_iff :
    (∃ x, readNumber s = .ok (some (.float x))) ↔
      Spelled (Text.trim s.toList) ∧
        ¬∃ sign digits, IsLiteral (Text.trim s.toList) sign digits := by
  constructor
  · rintro ⟨x, h⟩
    have hreads := reads_readNumber s
    rw [h] at hreads
    cases hreads with
    | float hspelled hnot => exact ⟨hspelled, hnot⟩
  · exact fun h => exists_float_of_spelled h.1 h.2

/-- Blanks that are put around a text change nothing. -/
theorem readNumber_append {before after : String}
    (hbefore : ∀ c ∈ before.toList, Text.isBlank c = true)
    (hafter : ∀ c ∈ after.toList, Text.isBlank c = true) (s : String) :
    readNumber (before ++ s ++ after) = readNumber s := by
  unfold readNumber
  rw [String.toList_append, String.toList_append, Text.trim_append hbefore hafter]

/-- **Numbers are read by their grammar.** A text is no number exactly if what stands between its
blanks is none by the grammar. It is read as an integer exactly if that is a literal of no more digits
than are read, and then as what the literal is worth; a longer literal is the only fault. All other
numbers are read as floating-point numbers. So an integer that is not too long is read back from what
it is written with, whatever blanks are around it. -/
theorem readNumber_iff :
    (∀ s : String,
      (readNumber s = .ok none ↔ ¬Spelled (Text.trim s.toList)) ∧
      (∀ n, readNumber s = .ok (some (.int n)) ↔
        ∃ sign digits, IsLiteral (Text.trim s.toList) sign digits ∧
          digits.length ≤ Numeral.maxIntegerDigits ∧ n = literalValue sign digits) ∧
      (∀ fault, readNumber s = .error fault ↔
        ∃ sign digits, IsLiteral (Text.trim s.toList) sign digits ∧
          Numeral.maxIntegerDigits < digits.length ∧ fault = .tooManyDigits digits.length) ∧
      ((∃ x, readNumber s = .ok (some (.float x))) ↔
        Spelled (Text.trim s.toList) ∧
          ¬∃ sign digits, IsLiteral (Text.trim s.toList) sign digits)) ∧
    ∀ (n : Int) (before after : String), n.natAbs < 10 ^ Numeral.maxIntegerDigits →
      (∀ c ∈ before.toList, Text.isBlank c = true) →
      (∀ c ∈ after.toList, Text.isBlank c = true) →
        readNumber (before ++ renderInt n ++ after) = .ok (some (.int n)) := by
  refine ⟨fun s => ⟨readNumber_eq_none_iff, fun _ => readNumber_eq_int_iff, fun fault => ?_,
    exists_float_iff⟩, fun n before after hn hbefore hafter => ?_⟩
  · rw [readNumber_eq_error_iff]
    constructor
    · rintro ⟨_, ⟨sign, digits, hsign, hdigits, hs, rfl, hlong⟩, rfl⟩
      exact ⟨sign, digits, ⟨hsign, hdigits, hs⟩, hlong, rfl⟩
    · rintro ⟨sign, digits, ⟨hsign, hdigits, hs⟩, hlong, rfl⟩
      exact ⟨_, ⟨sign, digits, hsign, hdigits, hs, rfl, hlong⟩, rfl⟩
  · rw [readNumber_append hbefore hafter, readNumber_renderInt hn]

/-- A literal in the digits of another script, a number that is no literal, and an integer between
blanks. -/
theorem readNumber_iff_scripts :
    readNumber " +\u0664\u0662" = .ok (some (.int 42)) ∧
    (∃ x, readNumber "\u0664.e1\u3000" = .ok (some (.float x))) ∧
    (-7 : Int).natAbs < 10 ^ Numeral.maxIntegerDigits ∧
    readNumber ("\t " ++ renderInt (-7) ++ "\u00a0") = .ok (some (.int (-7))) := by
  obtain ⟨hread, hback⟩ := readNumber_iff
  have hseven : (-7 : Int).natAbs < 10 ^ Numeral.maxIntegerDigits :=
    calc (-7 : Int).natAbs < 10 ^ 1 := by decide
      _ ≤ 10 ^ Numeral.maxIntegerDigits := Nat.pow_le_pow_right (by decide) (by decide)
  have hbefore : ∀ c ∈ "\t ".toList, Text.isBlank c = true := List.all_eq_true.mp (by decide)
  have hafter : ∀ c ∈ "\u00a0".toList, Text.isBlank c = true := List.all_eq_true.mp (by decide)
  refine ⟨?_, ?_, hseven, hback (-7) "\t " "\u00a0" hseven hbefore hafter⟩
  · obtain ⟨-, hint, -, -⟩ := hread " +\u0664\u0662"
    have hliteral : IsLiteral (Text.trim " +\u0664\u0662".toList) ['+'] ['\u0664', '\u0662'] :=
      ⟨.plus, ⟨List.cons_ne_nil _ _, List.all_eq_true.mp (by decide)⟩, by decide⟩
    exact (hint 42).mpr ⟨_, _, hliteral, by decide, by decide⟩
  · obtain ⟨-, -, -, hfloat⟩ := hread "\u0664.e1\u3000"
    have hspelled : Spelled (Text.trim "\u0664.e1\u3000".toList) := by decide
    refine hfloat.mpr ⟨hspelled, ?_⟩
    rw [hspelled.exists_literal_iff]
    exact fun h => h.1 (by decide)

end QueryFilter
