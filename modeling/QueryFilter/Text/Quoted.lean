import QueryFilter.Text.Printable

/-!
# QueryFilter.Text.Quoted

Texts and byte strings as they are shown inside a list, a mapping or a message: in quotes, with
what cannot be shown written as an escape.

* `quote`: a text in quotes.
* `quoteBytes`: a byte string in quotes, marked by a `b`.
-/

namespace QueryFilter.Text

/-- The single quote. -/
def singleQuote : Char := '\x27'

/-- The double quote. -/
def doubleQuote : Char := '\x22'

/-- The backslash. -/
def backslash : Char := '\x5c'

/-- The last `width` hexadecimal digits of a number, in lower case. -/
def hexDigits (width n : Nat) : List Char :=
  let digits := Nat.toDigits 16 n
  List.replicate (width - digits.length) '0' ++ digits

/-- The escape of a code point: two, four or eight hexadecimal digits, the fewest that hold it. -/
def escapeCode (n : Nat) : List Char :=
  if n < 0x100 then backslash :: 'x' :: hexDigits 2 n
  else if n < 0x10000 then backslash :: 'u' :: hexDigits 4 n
  else backslash :: 'U' :: hexDigits 8 n

/-- A character inside quotes: the backslash and the quote itself are escaped by a backslash, the
line breaks and the tab by a letter, and what `shown` refuses by its code. -/
def escapeChar (shown : Char → Bool) (mark c : Char) : List Char :=
  if c = mark ∨ c = backslash then [backslash, c]
  else if c = '\n' then [backslash, 'n']
  else if c = '\r' then [backslash, 'r']
  else if c = '\t' then [backslash, 't']
  else if shown c then [c]
  else escapeCode c.toNat

/-- The quote around a text: single, unless only a single one occurs inside. -/
def quoteMark (cs : List Char) : Char :=
  if cs.contains singleQuote && !cs.contains doubleQuote then doubleQuote else singleQuote

/-- A text between quotes. -/
def quoteWith (shown : Char → Bool) (cs : List Char) : List Char :=
  let mark := quoteMark cs
  mark :: cs.flatMap (escapeChar shown mark) ++ [mark]

/-- A text in quotes, as values show it. -/
def quote (s : String) : String := String.ofList (quoteWith isPrintable s.toList)

/-- Is the character a printable one of ASCII? -/
def isPlainAscii (c : Char) : Bool := 0x20 ≤ c.toNat && c.toNat < 0x7F

/-- A byte string in quotes; a byte is shown as the ASCII character that it is. -/
def quoteBytes (bytes : List UInt8) : String :=
  String.ofList ('b' :: quoteWith isPlainAscii (bytes.map fun b => Char.ofNat b.toNat))

end QueryFilter.Text
