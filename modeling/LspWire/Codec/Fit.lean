import LspWire.Schema.Library

/-!
# Fitting a type

To write a value at a declared type it is fitted to that type, which may be another one than it was read at. How closely
it has to fit is a `Fit`. A union needs to know whether a value fits an arm: it takes the first arm that the value fits
exactly, else the first arm that it fits as a derived value, and only where both fail it leaves the value as it is.

This module fits JSON values that no type describes. All that can change in one is a boolean in the place of an integer.
-/

namespace LspWire

/-- How closely a value has to fit a type. -/
inductive Fit where
  /-- Every record has the declared class, and every number and text the declared kind. -/
  | exact
  /-- A record may have a class with the fields of the declared one, an integer constant or a boolean may stand for an
      integer, and a string kind for a text. -/
  | derived
  /-- Whatever does not fit stays as it is, and any record may stand for another. -/
  | free
deriving DecidableEq, Repr

namespace Fit

variable {α : Type}

/-- What becomes of a value that does not fit. -/
def missed (fit : Fit) (a : α) : Option α :=
  match fit with
  | .free => some a
  | _ => none

/-- What becomes of a value that fits only as a derived one. -/
def derive (fit : Fit) (a : α) : Option α :=
  match fit with
  | .exact => none
  | _ => some a

/-- Keeps a value on a condition, and as one that does not fit otherwise. -/
def keepIf (fit : Fit) (fits : Bool) (a : α) : Option α := if fits then some a else fit.missed a

/-- The arm of a union that a value fits: the exact one, or the derived one where that is allowed. The arguments are what
    an arm makes of the value in the two cases. -/
def choose (fit : Fit) (exact derived : Option α) (a : α) : Option α :=
  match exact with
  | some b => some b
  | none =>
    match fit, derived with
    | .exact, _ => none
    | _, some b => some b
    | _, none => fit.missed a

end Fit

namespace Json

/-- The integer that a boolean stands for. -/
def ofBool (b : Bool) : Int := if b then 1 else 0

mutual

/-- Fits a JSON value to a type. -/
def fitted (fit : Fit) (t : Ty) (j : Json) : Option Json :=
  match t, j with
  | .any, j => some j
  | .null, .null => some .null
  | .bool, .bool b => some (.bool b)
  | .integer, .int n => some (.int n)
  | .integer, .bool b => fit.derive (.int (ofBool b))
  | .bounded .., .int n => some (.int n)
  | .bounded .., .bool b => fit.derive (.int (ofBool b))
  | .float, .float x => some (.float x)
  | .str, .str s => some (.str s)
  | .openEnum _, .str s => some (.str s)
  | .intEnum _, .int n => some (.int n)
  | .watchKind, .int n => some (.int n)
  | .literal text, .str s => fit.keepIf (s == text) (.str s)
  | .list t, .arr items => (fittedItems fit t items).map .arr
  | .map .text t, .obj ms => (fittedMembers fit t ms).map .obj
  | .map .uri t, .obj ms => if ms.isEmpty || fit == .free then (fittedMembers fit t ms).map .obj else none
  | .optional _, .null => some .null
  | .optional t, j => fitted fit t j
  | .switch _ _, .null => some .null
  | .switch _ t, j => fitted fit t j
  | .oneOf arms, j => fit.choose (fittedFirst .exact arms j) (fittedFirst .derived arms j) j
  | .provider boolean _ _, .bool b => fit.keepIf boolean (.bool b)
  | _, j => fit.missed j
termination_by (sizeOf j, sizeOf t)

/-- Fits every element. -/
def fittedItems (fit : Fit) (t : Ty) (items : List Json) : Option (List Json) :=
  match items with
  | [] => some []
  | j :: js =>
    match fitted fit t j, fittedItems fit t js with
    | some k, some ks => some (k :: ks)
    | _, _ => none
termination_by (sizeOf items, sizeOf t)

/-- Fits the value of every member. -/
def fittedMembers (fit : Fit) (t : Ty) (ms : List (String × Json)) : Option (List (String × Json)) :=
  match ms with
  | [] => some []
  | (name, j) :: ms =>
    match fitted fit t j, fittedMembers fit t ms with
    | some k, some ks => some ((name, k) :: ks)
    | _, _ => none
termination_by (sizeOf ms, sizeOf t)

/-- Fits a value to the first type it fits. -/
def fittedFirst (fit : Fit) (arms : List Ty) (j : Json) : Option Json :=
  match arms with
  | [] => none
  | t :: ts =>
    match fitted fit t j with
    | some k => some k
    | none => fittedFirst fit ts j
termination_by (sizeOf j, sizeOf arms)

end

end Json

end LspWire
