import LspWire.Enum.Basic
import LspWire.Json.Described

/-!
# How constants are shown

A named integer constant is shown by its name in Pascal case, a named string kind by the enumeration and its name, and a
value without a name by the enumeration and the value. The Pascal name of a constant can be read back; nothing else can.
-/

namespace LspWire

/-! ## Pascal case -/

/-- The words of a name: the parts between the underscores. -/
def nameWords : List Char → List (List Char)
  | [] => [[]]
  | c :: cs =>
    match nameWords cs with
    | [] => [[c]]
    | w :: ws => if c == '_' then [] :: w :: ws else (c :: w) :: ws

/-- A word with its first letter as it is and the others in lower case. -/
def pascalWord : List Char → List Char
  | [] => []
  | c :: cs => c :: cs.map Char.toLower

/-- A capital name in Pascal case: `ENUM_MEMBER` is `EnumMember`. -/
def pascalName (name : String) : String :=
  String.ofList ((nameWords name.toList).flatMap pascalWord)

/-! ## Integer constants -/

/-- The least 32-bit integer. -/
def int32Min : Int := -2147483648

/-- The greatest 32-bit integer. -/
def int32Max : Int := 2147483647

/-- Whether an integer fits in 32 bits with a sign. -/
def isInt32 (n : Int) : Bool := int32Min ≤ n && n ≤ int32Max

/-- Whether a value has a name. -/
def IntEnum.isKnown (e : IntEnum) (n : Int) : Bool := (e.constants.nameOf? n).isSome

/-- A value as messages show it. -/
def IntEnum.shown (e : IntEnum) (n : Int) : String :=
  match e.constants.nameOf? n with
  | some name => pascalName name
  | none => e.constants.name ++ "(" ++ String.ofList (Json.intText n) ++ ")"

/-- The constant whose Pascal name is given. -/
def IntEnum.ofPascalName? (e : IntEnum) (s : String) : Option Int :=
  (e.constants.members.find? fun m => pascalName m.1 == s).map (·.2)

/-- The value that a JSON value stands for: the constant equal to it as a number, or any integer of 32 bits. -/
def IntEnum.ofJson? (e : IntEnum) (j : Json) : Option Int :=
  match e.constants.members.find? fun m => Json.same (.int m.2) j with
  | some m => some m.2
  | none =>
    match j with
    | .int n => if isInt32 n then some n else none
    | _ => none

/-! ## String kinds -/

/-- Whether a value has a name. -/
def OpenEnum.isKnown (e : OpenEnum) (s : String) : Bool := (e.constants.nameOf? s).isSome

/-- A value as messages show it. -/
def OpenEnum.shown (e : OpenEnum) (s : String) : String :=
  match e.constants.nameOf? s with
  | some name => e.constants.name ++ "." ++ name
  | none => e.constants.name ++ "(" ++ Text.quoted s ++ ")"

/-- The value that a JSON value stands for: any text. -/
def OpenEnum.ofJson? : Json → Option String
  | .str s => some s
  | _ => none

/-! ## Messages -/

/-- The message about a value that an enumeration does not have. -/
def notAValue (enumeration : String) (j : Json) : String :=
  j.quoted ++ " is not a valid " ++ enumeration

/-- The message about a value that is not the Pascal name of a constant. -/
def notAName (enumeration : String) (j : Json) : String :=
  "unknown " ++ enumeration ++ " variant: " ++ j.quoted

/-! ## Reserved error codes -/

/-- The first code of the range that the protocol reserves for its own errors. -/
def firstReservedCode : Int := -32899

/-- The last code of that range. -/
def lastReservedCode : Int := -32800

/-- Whether a code lies in the reserved range. -/
def isReservedErrorCode (code : Int) : Bool := firstReservedCode ≤ code && code ≤ lastReservedCode

/-- Whether a JSON value lies in the reserved range as a number; no other value can be compared with a code. -/
def Json.isReservedErrorCode? (j : Json) : Option Bool :=
  match j.number? with
  | some (.inl n) => some (isReservedErrorCode n)
  | some (.inr x) => some (x.isBetween firstReservedCode lastReservedCode)
  | none => none

/-- The message about a value that cannot be compared with a code. -/
def notComparable (j : Json) : String :=
  "'<=' not supported between instances of 'ErrorCode' and '" ++ j.kindName ++ "'"

end LspWire
