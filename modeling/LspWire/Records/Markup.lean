import LspWire.Schema.Record

/-!
# Marked-up text and commands
-/

namespace LspWire.Schema

/-- A string value which content can be represented in different formats. -/
def markupContent : Record := record .markupContent [required "kind" (.closedEnum .markupKind), required "value" .str]

/-- A code block in a given language, one of the shapes of a `MarkedString`. -/
def languageString : Record := record .languageString [required "language" .str, required "value" .str]

/-- A text in markdown, or a code block in a language. -/
def markedString : Ty := .oneOf [.str, .record .languageString]

/-- A plain text or marked-up content. -/
def documentation : Ty := .oneOf [.str, .record .markupContent]

/-- A reference to a command. -/
def command : Record := record .command [
  required "title" .str,
  required "command" .str,
  optional "arguments" (.list .any)]

end LspWire.Schema
