import LspWire.Issue.Path

/-!
# Messages

The message of a problem names the JSON shape that was expected. What was read decides between two vocabularies: data
that is already parsed has dictionaries and lists, a JSON text has objects and arrays.
-/

namespace LspWire

/-- What a value was read from. -/
inductive Source where
  | data
  | text
deriving DecidableEq, Repr

/-- Texts in quotes, a comma between them. -/
def quotedList (texts : List String) : String :=
  ", ".intercalate (texts.map Text.quoted)

/-- Texts in quotes, a comma between them and `or` before the last. -/
def alternatives : List String → String
  | [] => ""
  | [s] => Text.quoted s
  | [s, t] => Text.quoted s ++ " or " ++ Text.quoted t
  | s :: ss => Text.quoted s ++ ", " ++ alternatives ss

/-- A shape in words. -/
def Shape.words : Source → Shape → String
  | .data, .record c => "a valid dictionary or instance of " ++ c.name
  | .data, .map => "a valid dictionary"
  | .data, .taggedObject => "a valid dictionary or object to extract fields from"
  | .text, .record _ | .text, .map | .text, .taggedObject => "an object"
  | .data, .list => "a valid list"
  | .data, .tuple => "a valid tuple"
  | .text, .list | .text, .tuple => "a valid array"
  | .data, .null => "None"
  | .text, .null => "null"
  | _, .boolean => "a valid boolean"
  | _, .integer => "a valid integer"
  | _, .number => "a valid number"
  | _, .string => "a valid string"
  | _, .uriString => "a valid URI string"

/-- An integer in a message. -/
def shownInt (n : Int) : String := String.ofList (Json.intText n)

/-- A problem in words. -/
def Cause.message (source : Source) : Cause → String
  | .notJson => "Invalid JSON"
  | .missing => "Field required"
  | .expected shape => "Input should be " ++ shape.words source
  | .tooLong n => "Tuple should have at most 2 items after validation, not " ++ shownInt n
  | .tagAbsent key => "Unable to extract tag using discriminator " ++ Text.quoted key
  | .tagUnknown key tag known =>
    "Input tag '" ++ tag.described ++ "' found using " ++ Text.quoted key ++
      " does not match any of the expected tags: " ++ quotedList known
  | .notOptions =>
    "Input tag 'bool' found using _provider_tag() does not match any of the expected tags: 'options', 'registration'"
  | .below lo => "Input should be greater than or equal to " ++ shownInt lo
  | .above hi => "Input should be less than or equal to " ++ shownInt hi
  | .notInt32 n => "Input should fit in a signed 32-bit integer, got " ++ shownInt n
  | .notFlags n => "Unknown WatchKind flag bits in " ++ shownInt n
  | .badUri p => "Input should be a valid URI: " ++ p.reason
  | .notAmong texts => "Input should be " ++ alternatives texts

/-! ## Reports -/

/-- An issue in words. -/
structure Report where
  kind : IssueKind
  path : String
  message : String
deriving DecidableEq, Repr

/-- Puts an issue in words. -/
def Issue.report (source : Source) (data : Option Json) (i : Issue) : Report :=
  ⟨i.cause.kind, path data i.location, i.cause.message source⟩

/-- A report on one line. -/
def Report.line (r : Report) : String := r.path ++ ": " ++ r.message ++ " (" ++ r.kind.name ++ ")"

/-- The message of a decode that failed. -/
def failureMessage (target : String) (rs : List Report) : String :=
  "cannot decode " ++ target ++ ":\n" ++ "\n".intercalate (rs.map fun r => "  " ++ r.line)

end LspWire
