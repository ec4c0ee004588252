import LspWire.Codec.Encode
import LspWire.Codec.Fit

/-!
# Values at a declared type

A value is written at a type by fitting it to the type first. A record at another class than its own keeps the fields
that the class has as well, in its own order and with its own choice of fields that are written though they are `null`;
each is fitted to the field type that the class declares. Members besides the fields stay only if the class keeps such.
-/

namespace LspWire

open Schema

namespace Value

/-- Whether a class has the fields of another. -/
def isBase (base c : Class) : Bool := (recordOf c).ancestors.contains base

/-- Whether a record of a class may stand for one of the declared class. -/
def admits (fit : Fit) (declared c : Class) : Bool :=
  match fit with
  | .exact => c == declared
  | .derived => c == declared || isBase declared c
  | .free => true

/-- Fits an integer, or a value that stands for one. -/
def fittedInteger (fit : Fit) : Value → Option Value
  | .int n => some (.int n)
  | .bool b => fit.derive (.int (Json.ofBool b))
  | .intEnum e n => fit.derive (.intEnum e n)
  | .watchKind set => fit.derive (.watchKind set)
  | v => fit.missed v

mutual

/-- Fits a value to a type. -/
def fitted (fit : Fit) (t : Ty) (v : Value) : Option Value :=
  match t, v with
  | .any, v => some v
  | t, .untyped j => (j.fitted fit t).map .untyped
  | .null, .null => some .null
  | .bool, .bool b => some (.bool b)
  | .integer, v => fittedInteger fit v
  | .bounded .., v => fittedInteger fit v
  | .float, .float x => some (.float x)
  | .str, .str s => some (.str s)
  | .str, .openEnum e s => fit.derive (.openEnum e s)
  | .uri, .uri u => some (.uri u)
  | .intEnum _, .int n => some (.int n)
  | .intEnum _, .intEnum e n => some (.intEnum e n)
  | .intEnum _, .watchKind set => some (.watchKind set)
  | .watchKind, .int n => some (.int n)
  | .watchKind, .intEnum e n => some (.intEnum e n)
  | .watchKind, .watchKind set => some (.watchKind set)
  | .openEnum _, .str s => some (.str s)
  | .openEnum _, .openEnum e s => some (.openEnum e s)
  | .closedEnum e, .closedEnum f s => fit.keepIf (f == e) (.closedEnum f s)
  | .literal text, .str s => fit.keepIf (s == text) (.str s)
  | .list t, .list vs => (fittedItems fit t vs).map .list
  | .pair a b, .pair x y =>
    match fitted fit a x, fitted fit b y with
    | some x, some y => some (.pair x y)
    | _, _ => none
  | .map keys t, .map kind es =>
    if kind == keys || es.isEmpty || fit == .free then (fittedEntries fit t es).map (.map kind) else none
  | .record b, .record c fs extra => fittedRecord fit b (.record c fs extra)
  | .optional _, .null => some .null
  | .optional t, v => fitted fit t v
  | .switch _ _, .null => some .null
  | .switch _ t, v => fitted fit t v
  | .oneOf arms, v => fit.choose (fittedFirst .exact arms v) (fittedFirst .derived arms v) v
  | .tagged _ arms, v => fit.choose (fittedArm .exact arms v) (fittedArm .derived arms v) v
  | .provider boolean _ _, .bool b => fit.keepIf boolean (.bool b)
  | .provider _ plain registered, .record c fs extra =>
    let v := Value.record c fs extra
    if hasRegistrationKey (recordOf c).fields then
      fit.choose ((fittedRecord .exact registered v).or (fittedRecord .exact plain v))
        ((fittedRecord .derived registered v).or (fittedRecord .derived plain v)) v
    else
      fit.choose ((fittedRecord .exact plain v).or (fittedRecord .exact registered v))
        ((fittedRecord .derived plain v).or (fittedRecord .derived registered v)) v
  | _, v => fit.missed v
termination_by (sizeOf v, sizeOf t)

/-- Fits a record to a class. -/
def fittedRecord (fit : Fit) (b : Class) (v : Value) : Option Value :=
  match v with
  | .record c fs extra =>
    if admits fit b c then
      (fittedFields fit (recordOf b).fields fs).map fun fs =>
        .record c fs (if (recordOf b).keepsExtra then extra else [])
    else none
  | v => fit.missed v
termination_by (sizeOf v, 0)

/-- Fits the fields that are declared, and drops the others. -/
def fittedFields (fit : Fit) (declared : List Field) (fs : List (String × Value)) :
    Option (List (String × Value)) :=
  match fs with
  | [] => some []
  | (name, v) :: fs =>
    match declared.find? fun f => f.name == name with
    | none => fittedFields fit declared fs
    | some f =>
      match fitted fit f.ty v, fittedFields fit declared fs with
      | some w, some ws => some ((name, w) :: ws)
      | _, _ => none
termination_by (sizeOf fs, 0)

/-- Fits every element. -/
def fittedItems (fit : Fit) (t : Ty) (vs : List Value) : Option (List Value) :=
  match vs with
  | [] => some []
  | v :: vs =>
    match fitted fit t v, fittedItems fit t vs with
    | some w, some ws => some (w :: ws)
    | _, _ => none
termination_by (sizeOf vs, sizeOf t)

/-- Fits the value of every entry. -/
def fittedEntries (fit : Fit) (t : Ty) (es : List (String × Value)) : Option (List (String × Value)) :=
  match es with
  | [] => some []
  | (k, v) :: es =>
    match fitted fit t v, fittedEntries fit t es with
    | some w, some ws => some ((k, w) :: ws)
    | _, _ => none
termination_by (sizeOf es, sizeOf t)

/-- Fits a value to the first type it fits. -/
def fittedFirst (fit : Fit) (arms : List Ty) (v : Value) : Option Value :=
  match arms with
  | [] => none
  | t :: ts =>
    match fitted fit t v with
    | some w => some w
    | none => fittedFirst fit ts v
termination_by (sizeOf v, sizeOf arms)

/-- Fits a value to the first tagged type it fits. -/
def fittedArm (fit : Fit) (arms : List (String × Ty)) (v : Value) : Option Value :=
  match arms with
  | [] => none
  | (_, t) :: ts =>
    match fitted fit t v with
    | some w => some w
    | none => fittedArm fit ts v
termination_by (sizeOf v, sizeOf arms)

end

/-- A value at a declared type; one that does not fit stays as it is. -/
def viewedAs (t : Ty) (v : Value) : Value := (v.fitted .free t).getD v

/-- The JSON value that a value is written as at a declared type. -/
def encodeAs (t : Ty) (v : Value) : Json := (v.viewedAs t).encode

/-- The compact text of a value at a declared type. -/
def toTextAs (t : Ty) (v : Value) : String := (encodeAs t v).settled.toText

end Value

end LspWire
