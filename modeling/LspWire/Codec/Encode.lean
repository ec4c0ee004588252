import LspWire.Json.Printer
import LspWire.Schema.Library

/-!
# Encoding

A value says what it is, so it is written without its type. A record writes its fields under their wire keys in field
order, then its extra members. It leaves out what is `null`, or would be for want of a JSON form, except for the fields
that are kept.
-/

namespace LspWire

open Schema

namespace Value

/-- The declared field of a name. -/
def fieldNamed? (c : Class) (name : String) : Option Field :=
  (recordOf c).fields.find? fun f => f.name == name

mutual

/-- The JSON value that a value is written as. -/
def encode : Value → Json
  | .null => .null
  | .bool b => .bool b
  | .int n => .int n
  | .float x => .float x
  | .str s => .str s
  | .uri u => .str u.text
  | .intEnum _ n => .int n
  | .openEnum _ s => .str s
  | .closedEnum _ s => .str s
  | .watchKind flags => .int flags
  | .untyped j => j
  | .list items => .arr (encodeItems items)
  | .pair x y => .arr [encode x, encode y]
  | .map _ entries => .obj (encodeEntries entries)
  | .record c fields extra => .obj (encodeFields c fields ++ extra.filter fun m => !m.2.isVoid)

/-- Writes the elements of a list. -/
def encodeItems : List Value → List Json
  | [] => []
  | v :: vs => encode v :: encodeItems vs

/-- Writes the entries of a map. -/
def encodeEntries : List (String × Value) → List (String × Json)
  | [] => []
  | (k, v) :: es => (k, encode v) :: encodeEntries es

/-- Writes the fields of a record that are there. -/
def encodeFields (c : Class) : List (String × Value) → List (String × Json)
  | [] => []
  | (name, v) :: fs =>
    match fieldNamed? c name with
    | some f => if v.isVoid && !f.keepsNull then encodeFields c fs else (f.wire, encode v) :: encodeFields c fs
    | none => encodeFields c fs

end

/-! ## Text

A number that is not finite has no JSON form. By its type a value is written with `null` in its place; by itself, a
value that no record describes is written with the name of the number, and a record with `null`.
-/

mutual

/-- What the text of a value writes, by the value itself. -/
def written : Value → Json
  | .list items => .arr (writtenItems items)
  | .pair x y => .arr [written x, written y]
  | .map _ entries => .obj (writtenEntries entries)
  | .record c fields extra => (encode (.record c fields extra)).settled
  | v => encode v

/-- What the text of a list writes. -/
def writtenItems : List Value → List Json
  | [] => []
  | v :: vs => written v :: writtenItems vs

/-- What the text of a map writes. -/
def writtenEntries : List (String × Value) → List (String × Json)
  | [] => []
  | (k, v) :: es => (k, written v) :: writtenEntries es

end

/-- The compact text of a value, by the value itself. -/
def toText (v : Value) : String := v.written.toText

end Value

end LspWire
