/-!
# QueryFilter.Text.Split

Cutting a text at a mark. The pieces between the marks come in order, empty ones included, so
there is always one piece more than there are marks.

* `splitAt`: the pieces between the occurrences of one character.
* `splitAtPair`: the pieces between the occurrences of two adjacent characters, found from the left
  and never overlapping.
* `joinWith`: pieces joined by a mark, the other way round.
-/

namespace QueryFilter.Text

/-- Puts a character in front of the first piece. -/
def consPiece (c : Char) : List (List Char) → List (List Char)
  | [] => [[c]]
  | piece :: rest => (c :: piece) :: rest

/-- The pieces of a text between the occurrences of a character. -/
def splitAt (mark : Char) : List Char → List (List Char)
  | [] => [[]]
  | c :: rest => if c = mark then [] :: splitAt mark rest else consPiece c (splitAt mark rest)

/-- The pieces of a text between the occurrences of two adjacent characters. -/
def splitAtPair (first second : Char) : List Char → List (List Char)
  | [] => [[]]
  | [c] => [[c]]
  | c :: d :: rest =>
      if c = first ∧ d = second then
        [] :: splitAtPair first second rest
      else
        consPiece c (splitAtPair first second (d :: rest))

/-- Pieces joined by a mark. -/
def joinWith (mark : Char) : List (List Char) → List Char
  | [] => []
  | [piece] => piece
  | piece :: rest => piece ++ mark :: joinWith mark rest

theorem splitAt_ne_nil (mark : Char) (cs : List Char) : splitAt mark cs ≠ [] := by
  cases cs with
  | nil => simp [splitAt]
  | cons c rest =>
      simp only [splitAt]
      split
      · simp
      · cases splitAt mark rest <;> simp [consPiece]

end QueryFilter.Text
