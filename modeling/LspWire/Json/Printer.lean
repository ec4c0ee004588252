import LspWire.Json.Basic
import LspWire.Number.Shortest
import LspWire.Text.Quoted

/-!
# Compact JSON text

A value is written without white space, members in order. A string escapes the quote, the backslash and the characters
below U+0020, the five common ones by a letter; everything else stands for itself. A number that is not finite is
written as a name that the reader takes back.
-/

namespace LspWire.Json

/-- Numbers are positional from `0.00001` up to below `10^16`, and an exponent has a sign and no padding. -/
def numberLayout : Double.Layout := ⟨-5, 16, 1⟩

/-- The text of a number. -/
def floatText : Double → List Char
  | .nan => "NaN".toList
  | .infinite false => "Infinity".toList
  | .infinite true => "-Infinity".toList
  | x => numberLayout.finite x

/-- The text of an integer. -/
def intText (n : Int) : List Char :=
  if n < 0 then '-' :: Double.digits n.natAbs else Double.digits n.natAbs

/-- A character inside a string. -/
def escaped (c : Char) : List Char :=
  if c == '"' then ['\\', '"']
  else if c == '\\' then ['\\', '\\']
  else if c == '\x08' then ['\\', 'b']
  else if c == '\x0c' then ['\\', 'f']
  else if c == '\n' then ['\\', 'n']
  else if c == '\r' then ['\\', 'r']
  else if c == '\t' then ['\\', 't']
  else if c < ' ' then '\\' :: 'u' :: Text.hex 4 c.toNat
  else [c]

/-- A string with its quotes. -/
def stringText (s : String) : List Char :=
  '"' :: (s.toList.flatMap escaped ++ ['"'])

mutual

/-- The characters of a value's text. -/
def chars : Json → List Char
  | .null => "null".toList
  | .bool true => "true".toList
  | .bool false => "false".toList
  | .int n => intText n
  | .float x => floatText x
  | .str s => stringText s
  | .arr [] => ['[', ']']
  | .arr (j :: js) => '[' :: (chars j ++ moreItems js)
  | .obj [] => ['\x7b', '\x7d']
  | .obj ((k, j) :: ms) => '\x7b' :: (stringText k ++ ':' :: (chars j ++ moreMembers ms))

/-- The elements after the first, each after a comma, and the end of the array. -/
def moreItems : List Json → List Char
  | [] => [']']
  | j :: js => ',' :: (chars j ++ moreItems js)

/-- The members after the first, each after a comma, and the end of the object. -/
def moreMembers : List (String × Json) → List Char
  | [] => ['\x7d']
  | (k, j) :: ms => ',' :: (stringText k ++ ':' :: (chars j ++ moreMembers ms))

end

/-- The compact text of a value. -/
def toText (j : Json) : String := String.ofList j.chars

end LspWire.Json
