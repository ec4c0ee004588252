import LspWire.Text.Line
import LspWire.Codec.Decode

/-!
# Positions and ranges of a document

Positions are ordered by line, then by character. The length of a range in a text is the number of characters between
its ends, line breaks left out: a character past the end of a line counts as the end of the line.
-/

namespace LspWire

/-- A position: a line and a character in it, both from zero. -/
structure Position where
  line : Nat
  character : Nat
deriving DecidableEq, Repr

/-- A range, its end left out. -/
structure Range where
  first : Position
  last : Position
deriving DecidableEq, Repr

namespace Position

/-- Whether a position comes before another. -/
def before (p q : Position) : Bool :=
  p.line < q.line || (p.line == q.line && p.character < q.character)

/-- The position that a value of class `Position` is. -/
def ofValue? : Value → Option Position
  | .record .position [("line", .int l), ("character", .int c)] _ => some ⟨l.toNat, c.toNat⟩
  | _ => none

/-- The value of a position. -/
def toValue (p : Position) : Value :=
  .record .position [("line", .int p.line), ("character", .int p.character)] []

/-- Positions in order. -/
def sorted (ps : List Position) : List Position := ps.mergeSort fun p q => !q.before p

end Position

namespace Range

/-- The range that a value of class `Range` is. -/
def ofValue? : Value → Option Range
  | .record .range [("start", s), ("end", e)] _ =>
    match Position.ofValue? s, Position.ofValue? e with
    | some p, some q => some ⟨p, q⟩
    | _, _ => none
  | _ => none

/-- The value of a range. -/
def toValue (r : Range) : Value :=
  .record .range [("start", r.first.toValue), ("end", r.last.toValue)] []

/-- The characters of a line from one index up to another. -/
def slice (l : List Char) (i j : Nat) : List Char := (l.take j).drop i

/-- The sum of the lengths of the lines from one up to another. -/
def lengthBetween (ls : List (List Char)) (i j : Nat) : Nat :=
  (((ls.take j).drop i).map List.length).foldr (· + ·) 0

/-- The number of characters of a range in a text, line breaks left out; nothing if the range has a line that the text
    does not have. -/
def length? (r : Range) (text : String) : Option Nat :=
  let ls := Text.lines text.toList
  match ls[r.first.line]?, ls[r.last.line]? with
  | some a, some b =>
    if r.last.line = r.first.line then some (slice a r.first.character r.last.character).length
    else
      some ((a.drop r.first.character).length + lengthBetween ls (r.first.line + 1) r.last.line +
        (b.take r.last.character).length)
  | _, _ => none

/-- The message about a line that does not exist. -/
def noLineMessage : String := "list index out of range"

end Range

end LspWire
