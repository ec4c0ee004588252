import LspWire.Enum.Shown
import LspWire.Enum.WatchKind
import LspWire.Json.Basic
import LspWire.Schema.Class
import LspWire.Uri.Basic

/-!
# Decoded values

What a JSON value becomes when it is read at a type. A value says which class, enumeration or kind it has, so it can be
written without its type. A record lists every declared field in field order, the absent ones as `null`, and the members
that it keeps besides them; what no type describes stays JSON.
-/

namespace LspWire

/-- What the keys of a map are. -/
inductive KeyKind where
  | text
  | uri
deriving DecidableEq, Repr

/-- A decoded value. -/
inductive Value where
  | null
  | bool (b : Bool)
  | int (n : Int)
  | float (x : Double)
  | str (s : String)
  | uri (u : Uri)
  | intEnum (e : IntEnum) (n : Int)
  | openEnum (e : OpenEnum) (s : String)
  | closedEnum (e : ClosedEnum) (s : String)
  | watchKind (flags : Nat)
  | untyped (j : Json)
  | list (items : List Value)
  | pair (first second : Value)
  | map (keys : KeyKind) (entries : List (String × Value))
  | record (c : Class) (fields : List (String × Value)) (extra : List (String × Json))

namespace Value

/-- Whether there is nothing to write for a value. A number that its type asks for is always there. -/
def isVoid : Value → Bool
  | .null => true
  | .untyped j => j.isVoid
  | _ => false

/-! ## Equality

Records are equal when they have the same class, equal fields and equal extra members; maps without regard to order;
numbers by value.
-/

mutual

/-- Equality of values. -/
def same : Value → Value → Bool
  | .null, .null => true
  | .bool a, .bool b => a == b
  | .int a, .int b => a == b
  | .float x, .float y => x.same y
  | .str s, .str t => s == t
  | .uri u, .uri v => u.text == v.text
  | .intEnum e a, .intEnum f b => e == f && a == b
  | .openEnum e s, .openEnum f t => e == f && s == t
  | .closedEnum e s, .closedEnum f t => e == f && s == t
  | .watchKind a, .watchKind b => a == b
  | .untyped j, .untyped k => j.same k
  | .list xs, .list ys => sameItems xs ys
  | .pair x y, .pair x' y' => same x x' && same y y'
  | .map k es, .map l fs => k == l && es.length == fs.length && sameEntries es fs
  | .record c fs x, .record d gs y =>
    c == d && fs.length == gs.length && sameEntries fs gs && Json.same (.obj x) (.obj y)
  | _, _ => false

/-- Equality of lists, element by element. -/
def sameItems : List Value → List Value → Bool
  | [], [] => true
  | x :: xs, y :: ys => same x y && sameItems xs ys
  | _, _ => false

/-- Whether each entry has an equal partner under its key. -/
def sameEntries : List (String × Value) → List (String × Value) → Bool
  | [], _ => true
  | (k, v) :: es, fs =>
    (match Members.find? k fs with
      | some w => same v w
      | none => false) && sameEntries es fs

end

end Value

end LspWire
