import LspWire.Json.Printer
import LspWire.Text.Quoted

/-!
# Values in messages

How a message shows a JSON value: the names `None`, `True` and `False`, numbers with an exponent below `10^-4` and from
`10^16` on, texts quoted, arrays and objects with a space after each comma and colon. A text that is the whole value
stands without quotes.
-/

namespace LspWire.Json

/-- Numbers in messages have an exponent of two digits and a sign. -/
def describedLayout : Double.Layout := ⟨-4, 16, 2⟩

/-- A number in a message. -/
def describedFloat : Double → String
  | .nan => "nan"
  | .infinite false => "inf"
  | .infinite true => "-inf"
  | x => String.ofList (describedLayout.finite x)

mutual

/-- A value inside a message, texts quoted. -/
def quoted : Json → String
  | .null => "None"
  | .bool true => "True"
  | .bool false => "False"
  | .int n => String.ofList (intText n)
  | .float x => describedFloat x
  | .str s => Text.quoted s
  | .arr items => "[" ++ ", ".intercalate (quotedItems items) ++ "]"
  | .obj members => "\x7b" ++ ", ".intercalate (quotedMembers members) ++ "\x7d"

/-- The elements of an array inside a message. -/
def quotedItems : List Json → List String
  | [] => []
  | j :: js => quoted j :: quotedItems js

/-- The members of an object inside a message. -/
def quotedMembers : List (String × Json) → List String
  | [] => []
  | (k, j) :: ms => (Text.quoted k ++ ": " ++ quoted j) :: quotedMembers ms

end

/-- A value in a message, a text as it is. -/
def described : Json → String
  | .str s => s
  | j => quoted j

/-! ## Kinds of values -/

/-- The name of a value's kind in messages. -/
def kindName : Json → String
  | .null => "NoneType"
  | .bool _ => "bool"
  | .int _ => "int"
  | .float _ => "float"
  | .str _ => "str"
  | .arr _ => "list"
  | .obj _ => "dict"

/-- The message about a value in the place of a text. -/
def notText (j : Json) : String := "expected str, got " ++ j.kindName

end LspWire.Json
