import LspWire.Document.Position
import LspWire.Codec.View

/-!
# Making records

Records made from a few of their fields. The given JSON values are read at the types of the fields, so making a record
can find the same problems as reading one.
-/

namespace LspWire

namespace Construct

/-- The record of a class whose members are the given ones. -/
def make (c : Class) (given : List (String × Json)) : Outcome Value := decodeRecord .data c (.obj given)

/-- A diagnostic with only a range and a message. -/
def diagnostic (range message : Json) : Outcome Value :=
  make .diagnostic [("range", range), ("message", message)]

/-- A diagnostic with a numeric code. -/
def diagnosticWithCode (range severity code source message : Json) : Outcome Value :=
  make .diagnostic
    [("range", range), ("severity", severity), ("code", code), ("source", source), ("message", message)]

/-- A code block in a language. -/
def languageString (language block : Json) : Outcome Value :=
  make .languageString [("language", language), ("value", block)]

/-- A completion item with only a label and a detail. -/
def completionItem (label detail : Json) : Outcome Value :=
  make .completionItem [("label", label), ("detail", detail)]

/-- The entries of a map from documents to edits. A problem is located by the document as it is shown. -/
def changes : List (Uri × Json) → Outcome (List (String × Value))
  | [] => .ok []
  | (u, edits) :: rest =>
    (((decode .data (.list (.record .textEdit)) edits).within (.key u.shown)).both (changes rest)).map fun p =>
      (u.text, p.1) :: p.2

/-- A workspace edit that only has changes; of several for one document the last counts. -/
def workspaceEdit (given : List (Uri × Json)) : Outcome Value :=
  let entries := Members.merge (given.map fun g => (g.1.text, g))
  ((changes (entries.map (·.2))).within (.key "changes")).map fun es =>
    .record .workspaceEdit
      ((Schema.recordOf .workspaceEdit).fields.map fun f =>
        (f.name, if f.name == "changes" then .map .uri es else .null)) []

/-! ## Change events -/

/-- The event that tells the whole new text of a document. -/
def wholeChange (text : Json) : Outcome Value :=
  make .textDocumentContentChangeEvent [("text", text)]

/-- The event that tells the new text of a range, with the length of the range in the old text; nothing if a line of the
    range does not exist. -/
def rangeChange (range : Range) (text : Json) (old : String) : Option (Outcome Value) :=
  (range.length? old).map fun n =>
    make .textDocumentContentChangeEvent
      [("range", range.toValue.encode), ("rangeLength", .int n), ("text", text)]

end Construct

end LspWire
