/-!
# Lines of a text

A text splits at line boundaries: line feed, carriage return (the pair counts once), line and form tabulation, the
information separators U+001C to U+001E, next line, and the line and paragraph separators. The boundaries belong to no
line, and a text that ends in one has no empty last line.
-/

namespace LspWire.Text

/-- The characters that end a line. -/
def isBoundary (c : Char) : Bool :=
  c == '\n' || c == '\r' || c == '\x0b' || c == '\x0c' || c == '\x1c' || c == '\x1d' || c == '\x1e' ||
    c == '\x85' || c == '\u2028' || c == '\u2029'

/-- Puts a character before the first line. -/
def consLine (c : Char) : List (List Char) → List (List Char)
  | [] => [[c]]
  | l :: ls => (c :: l) :: ls

/-- The lines of a text, boundaries left out. -/
def lines : List Char → List (List Char)
  | [] => []
  | '\r' :: '\n' :: cs => [] :: lines cs
  | c :: cs => if isBoundary c then [] :: lines cs else consLine c (lines cs)

end LspWire.Text
