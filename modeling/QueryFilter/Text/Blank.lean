/-!
# QueryFilter.Text.Blank

White space and trimming. A character is *blank* when it separates words in some
script or breaks a line; the zero-width characters are not blank.

* `isBlank`: the class itself.
* `trim`: a text without the blanks at its two ends.
* `IsTrimmed`: a text that begins and ends with no blank, said without `trim`.
-/

namespace QueryFilter.Text

/-- The blank characters: the ASCII controls that move the position or separate records, the
space, and the spaces and separators of Unicode. -/
def isBlank (c : Char) : Bool :=
  let n := c.toNat
  (0x09 ≤ n && n ≤ 0x0D) || (0x1C ≤ n && n ≤ 0x20) || n == 0x85 || n == 0xA0 || n == 0x1680 ||
    (0x2000 ≤ n && n ≤ 0x200A) || n == 0x2028 || n == 0x2029 || n == 0x202F || n == 0x205F ||
    n == 0x3000

/-- The text from its first character that is not blank. -/
def trimStart (cs : List Char) : List Char := cs.dropWhile isBlank

/-- The text up to its last character that is not blank. -/
def trimEnd (cs : List Char) : List Char := (cs.reverse.dropWhile isBlank).reverse

/-- The text without the blanks at its two ends. -/
def trim (cs : List Char) : List Char := trimEnd (trimStart cs)

/-- A text that neither begins nor ends with a blank. -/
def IsTrimmed (cs : List Char) : Prop :=
  (∀ c ∈ cs.head?, isBlank c = false) ∧ (∀ c ∈ cs.getLast?, isBlank c = false)

/-- Trimming on strings. -/
def strip (s : String) : String := String.ofList (trim s.toList)

@[simp] theorem strip_ofList (cs : List Char) : strip (String.ofList cs) = String.ofList (trim cs) := by
  simp [strip]

end QueryFilter.Text
