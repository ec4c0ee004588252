import LspWire.Value.Basic

/-!
# Types

What a JSON value can be read as. A type is finite: a record is named by its class, whose declaration is looked up, so
records may contain one another. There are four forms of union. An untagged one takes the first arm that reads the
value; a tagged one is told by a text member; a provider is told by the presence of a registration key; a switch is an
optional type for which older peers write a boolean.
-/

namespace LspWire

/-- A type. -/
inductive Ty where
  /-- Any JSON value, kept as it is. -/
  | any
  /-- Nothing but `null`. -/
  | null
  | bool
  /-- An integer of any size. -/
  | integer
  /-- An integer between two bounds, ends included. -/
  | bounded (lo hi : Int)
  | float
  | str
  | uri
  | intEnum (e : IntEnum)
  | openEnum (e : OpenEnum)
  | closedEnum (e : ClosedEnum)
  | watchKind
  /-- One text, the tag of a record. -/
  | literal (text : String)
  | list (item : Ty)
  | pair (first second : Ty)
  | map (keys : KeyKind) (item : Ty)
  | record (c : Class)
  /-- `null` or a value of the type. -/
  | optional (t : Ty)
  /-- The first of the types that reads the value. -/
  | oneOf (arms : List Ty)
  /-- The type that the text under a key names. -/
  | tagged (key : String) (arms : List (String × Ty))
  /-- Plain options, or registration options if one of their keys is there; a boolean if that is allowed. -/
  | provider (boolean : Bool) (plain registered : Class)
  /-- An optional type for which `true` stands for a value and `false` for nothing. -/
  | switch (on : Value) (t : Ty)

namespace Ty

/-- Integers of 32 bits with a sign. -/
def int32 : Ty := .bounded int32Min int32Max

/-- Integers of 32 bits without a sign. -/
def uint32 : Ty := .bounded 0 4294967295

/-- Integers from 0 to 100. -/
def percentage : Ty := .bounded 0 100

/-- An identifier or token: a number or a text. -/
def numberOrString : Ty := .oneOf [int32, .str]

/-- An object whose members no type describes. -/
def object : Ty := .map .text .any

end Ty

end LspWire
