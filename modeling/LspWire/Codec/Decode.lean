import LspWire.Codec.Label
import LspWire.Issue.Message
import LspWire.Json.Reader
import LspWire.Schema.Library

/-!
# Decoding

Reads a JSON value at a type. Every problem is found, not only the first: the fields of a record in field order,
elements and entries in order, the key of an entry before its value, the arms of an untagged union in order if none of
them reads the value. The last value of a repeated key counts, but a map reads every one.

The recursion goes down in the value, or stays at the value and goes down in the type.

What is read is a JSON text or data that is already parsed. Both are read alike, but for an integer in the place of a
number: a text may write one of any size.
-/

namespace LspWire

namespace Schema

/-- Whether an object has a registration key. -/
def isRegistration (ms : List (String × Json)) : Bool := registrationKeys.any fun k => Members.has k ms

/-- The member that a field is read from: the one under its wire key, else the one under its name. -/
def findField? (f : Field) (ms : List (String × Json)) : Option (String × Json) :=
  match Members.find? f.wire ms with
  | some j => some (f.wire, j)
  | none =>
    match Members.find? f.name ms with
    | some j => some (f.name, j)
    | none => none

/-- The members of an object that are no fields, repeated keys merged. -/
def extraMembers (fields : List Field) (ms : List (String × Json)) : List (String × Json) :=
  Members.merge (Json.mergedMembers (ms.filter fun m => !fields.any fun f => f.wire == m.1 || f.name == m.1))

theorem sizeOf_findField? {f : Field} {ms : List (String × Json)} {k : String} {j : Json}
    (h : findField? f ms = some (k, j)) : sizeOf j < sizeOf ms := by
  unfold findField? at h
  split at h
  · next hf => cases h; exact Members.sizeOf_find? hf
  · split at h
    · next hf => cases h; exact Members.sizeOf_find? hf
    · cases h

end Schema

open Schema Outcome

/-! ## Values without parts -/

/-- Reads `null`. -/
def decodeNull : Json → Outcome Value
  | .null => .ok .null
  | _ => fail (.expected .null)

/-- Reads a boolean. -/
def decodeBool : Json → Outcome Value
  | .bool b => .ok (.bool b)
  | _ => fail (.expected .boolean)

/-- Reads an integer. -/
def decodeInteger : Json → Outcome Value
  | .int n => .ok (.int n)
  | _ => fail (.expected .integer)

/-- Reads an integer between bounds. -/
def decodeBounded (lo hi : Int) : Json → Outcome Value
  | .int n => if n < lo then fail (.below lo) else if hi < n then fail (.above hi) else .ok (.int n)
  | _ => fail (.expected .integer)

/-- Reads a number; an integer becomes the nearest binary64 value. One beyond the range is an infinity in a text, and no
    number in data. -/
def decodeFloat (source : Source) : Json → Outcome Value
  | .float x => .ok (.float x)
  | .int n =>
    match source, Double.ofInt n with
    | .text, x => .ok (.float x)
    | .data, .finite s m q => .ok (.float (.finite s m q))
    | .data, _ => fail (.expected .number)
  | _ => fail (.expected .number)

/-- Reads a text. -/
def decodeStr : Json → Outcome Value
  | .str s => .ok (.str s)
  | _ => fail (.expected .string)

/-- Reads a URI reference. -/
def decodeUri : Json → Outcome Value
  | .str s =>
    match Uri.parse s with
    | .ok u => .ok (.uri u)
    | .error e => fail (.badUri e.problem)
  | _ => fail (.expected .uriString)

/-- Reads an integer constant; any value of 32 bits is one. -/
def decodeIntEnum (e : IntEnum) : Json → Outcome Value
  | .int n => if isInt32 n then .ok (.intEnum e n) else fail (.notInt32 n)
  | _ => fail (.expected .integer)

/-- Reads a string kind; any text is one. -/
def decodeOpenEnum (e : OpenEnum) : Json → Outcome Value
  | .str s => .ok (.openEnum e s)
  | _ => fail (.expected .string)

/-- Reads one of the texts of a closed enumeration. -/
def decodeClosedEnum (e : ClosedEnum) (j : Json) : Outcome Value :=
  let texts := e.constants.members.map (·.2)
  match j with
  | .str s => if texts.contains s then .ok (.closedEnum e s) else fail (.notAmong texts)
  | _ => fail (.notAmong texts)

/-- Reads a set of watch flags. -/
def decodeWatchKind : Json → Outcome Value
  | .int n =>
    match WatchKind.ofInt? n with
    | some set => .ok (.watchKind set)
    | none => fail (.notFlags n)
  | _ => fail (.expected .integer)

/-- Reads one text. -/
def decodeLiteral (text : String) : Json → Outcome Value
  | .str s => if s = text then .ok (.str text) else fail (.notAmong [text])
  | _ => fail (.notAmong [text])

/-- Reads a key of a map. -/
def decodeKey (keys : KeyKind) (k : String) : Outcome Unit :=
  match keys with
  | .text => .ok ()
  | .uri =>
    match Uri.parse k with
    | .ok _ => .ok ()
    | .error e => fail (.badUri e.problem)

/-- The value of a field whose key is absent. -/
def decodeAbsent (f : Field) : Outcome Value :=
  match f.absent with
  | some v => .ok v
  | none => .error [⟨.missing, [.key f.wire]⟩]

/-- An element that is absent. -/
def absentElement (i : Nat) : Outcome Value := .error [⟨.missing, [.index i]⟩]

/-! ## Values with parts -/

mutual

/-- Reads a JSON value at a type. -/
def decode (source : Source) (t : Ty) (j : Json) : Outcome Value :=
  match t with
  | .any => .ok (.untyped j.merged)
  | .null => decodeNull j
  | .bool => decodeBool j
  | .integer => decodeInteger j
  | .bounded lo hi => decodeBounded lo hi j
  | .float => decodeFloat source j
  | .str => decodeStr j
  | .uri => decodeUri j
  | .intEnum e => decodeIntEnum e j
  | .openEnum e => decodeOpenEnum e j
  | .closedEnum e => decodeClosedEnum e j
  | .watchKind => decodeWatchKind j
  | .literal text => decodeLiteral text j
  | .list t =>
    match j with
    | .arr items => (decodeItems source t 0 items).map .list
    | _ => fail (.expected .list)
  | .pair a b =>
    match j with
    | .arr [] => ((absentElement 0).both (absentElement 1)).map fun p => .pair p.1 p.2
    | .arr [x] => (((decode source a x).within (.index 0)).both (absentElement 1)).map fun p => .pair p.1 p.2
    | .arr [x, y] =>
      (((decode source a x).within (.index 0)).both ((decode source b y).within (.index 1))).map fun p => .pair p.1 p.2
    | .arr items => fail (.tooLong items.length)
    | _ => fail (.expected .tuple)
  | .map keys t =>
    match j with
    | .obj ms => (decodeEntries source keys t ms).map fun es => .map keys (Members.merge es)
    | _ => fail (.expected .map)
  | .record c => decodeRecord source c j
  | .optional t =>
    match j with
    | .null => .ok .null
    | j => decode source t j
  | .oneOf arms => decodeFirst source arms j
  | .tagged key arms =>
    match j with
    | .obj ms =>
      match Members.find? key ms with
      | none => fail (.tagAbsent key)
      | some (.str tag) => decodeTagged source key tag (arms.map (·.1)) arms (.obj ms)
      | some tag => fail (.tagUnknown key tag.merged (arms.map (·.1)))
    | _ => fail (.expected .taggedObject)
  | .provider boolean plain registered =>
    match j with
    | .obj ms =>
      if isRegistration ms then (decodeRecord source registered (.obj ms)).within (.arm "registration")
      else (decodeRecord source plain (.obj ms)).within (.arm "options")
    | j => if boolean then (decodeBool j).within (.arm "bool") else fail .notOptions
  | .switch on t =>
    match j with
    | .null => .ok .null
    | .bool true => .ok on
    | .bool false => .ok .null
    | j => decode source t j
termination_by (sizeOf j, sizeOf t)

/-- Reads a JSON value as a record. -/
def decodeRecord (source : Source) (c : Class) (j : Json) : Outcome Value :=
  match j with
  | .obj ms =>
    (decodeFields source (recordOf c).fields ms).map fun fs =>
      .record c fs (if (recordOf c).keepsExtra then extraMembers (recordOf c).fields ms else [])
  | _ => fail (.expected (.record c))
termination_by (sizeOf j, 0)

/-- Reads the fields of a record, in field order. -/
def decodeFields (source : Source) (fields : List Field) (ms : List (String × Json)) :
    Outcome (List (String × Value)) :=
  match fields with
  | [] => .ok []
  | f :: fs =>
    Outcome.map (fun p => (f.name, p.1) :: p.2) <|
      Outcome.both
        (match h : findField? f ms with
          | some (k, j) =>
            have := sizeOf_findField? h
            (decode source f.ty j).within (.key k)
          | none => decodeAbsent f)
        (decodeFields source fs ms)
termination_by (sizeOf ms, sizeOf fields)

/-- Reads the elements of a list from an index on. -/
def decodeItems (source : Source) (t : Ty) (i : Nat) (items : List Json) : Outcome (List Value) :=
  match items with
  | [] => .ok []
  | j :: js => (((decode source t j).within (.index i)).both (decodeItems source t (i + 1) js)).map fun p => p.1 :: p.2
termination_by (sizeOf items, sizeOf t)

/-- Reads the entries of a map, every one under its key. -/
def decodeEntries (source : Source) (keys : KeyKind) (t : Ty) (ms : List (String × Json)) :
    Outcome (List (String × Value)) :=
  match ms with
  | [] => .ok []
  | (k, j) :: ms =>
    (((((decodeKey keys k).within .mapKey).within (.key k)).both ((decode source t j).within (.key k))).both
      (decodeEntries source keys t ms)).map fun p => (k, p.1.2) :: p.2
termination_by (sizeOf ms, sizeOf t)

/-- Reads a value at the first type that reads it. -/
def decodeFirst (source : Source) (arms : List Ty) (j : Json) : Outcome Value :=
  match arms with
  | [] => .error []
  | t :: ts =>
    match decode source t j with
    | .ok v => .ok v
    | .error is => (Outcome.within (.arm t.label) (.error is)).orElse (decodeFirst source ts j)
termination_by (sizeOf j, sizeOf arms)

/-- Reads a value at the type that a tag names. -/
def decodeTagged (source : Source) (key tag : String) (known : List String) (arms : List (String × Ty)) (j : Json) :
    Outcome Value :=
  match arms with
  | [] => fail (.tagUnknown key (.str tag) known)
  | (name, t) :: ts =>
    if name = tag then (decode source t j).within (.arm tag) else decodeTagged source key tag known ts j
termination_by (sizeOf j, sizeOf arms)

end

/-! ## Entry points -/

/-- Reads data that is already parsed and has no repeated keys. -/
def decodeData (t : Ty) (j : Json) : Except (List Report) Value :=
  (decode .data t j).mapError fun is => is.map (Issue.report .data (some j))

/-- The issue of a text that is not JSON. -/
def notJson : List Report := [Issue.report .text none ⟨.notJson, []⟩]

/-- Reads a parsed text. -/
def decodeParsed (t : Ty) : Option Json → Except (List Report) Value
  | none => .error notJson
  | some j => (decode .text t j).mapError fun is => is.map (Issue.report .text (some j.merged))

/-- Reads a JSON text. -/
def decodeText (t : Ty) (s : String) : Except (List Report) Value := decodeParsed t (Json.ofText? s)

/-- Reads a JSON text in UTF-8. -/
def decodeBytes (t : Ty) (bytes : ByteArray) : Except (List Report) Value := decodeParsed t (Json.ofBytes? bytes)

/-- Whether a type has no value but `null`. -/
def Ty.isNull : Ty → Bool
  | .null => true
  | .optional t => t.isNull
  | _ => false

/-- The name of a type in the message of a failure, if it is a class, an enumeration or nothing but `null`. -/
def Ty.target? : Ty → Option String
  | .any => some "Any"
  | .null => some "NoneType"
  | .optional t => if t.isNull then some "NoneType" else none
  | .uri => some "Uri"
  | .intEnum e => some e.constants.name
  | .openEnum e => some e.constants.name
  | .closedEnum e => some e.constants.name
  | .watchKind => some "WatchKind"
  | .record c => some c.name
  | _ => none

end LspWire
