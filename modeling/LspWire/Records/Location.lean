import LspWire.Schema.Record

/-!
# Positions, ranges and documents
-/

namespace LspWire.Schema

/-- Position in a text document expressed as zero-based line and character offset. -/
def position : Record := record .position [required "line" .uint32, required "character" .uint32]

/-- A range in a text document expressed as (zero-based) start and end positions. -/
def range : Record := record .range [required "start" (.record .position), required "end" (.record .position)]

/-- A location inside a resource, such as a line inside a text file. -/
def location : Record := record .location [required "uri" .uri, required "range" (.record .range)]

/-- A link between a source and a target location. -/
def locationLink : Record := record .locationLink [
  optional "originSelectionRange" (.record .range),
  required "targetUri" .uri,
  required "targetRange" (.record .range),
  required "targetSelectionRange" (.record .range)]

/-- Text documents are identified using a URI. -/
def textDocumentIdentifier : Record := record .textDocumentIdentifier [required "uri" .uri]

/-- An item to transfer a text document from the client to the server. -/
def textDocumentItem : Record := record .textDocumentItem [
  required "uri" .uri,
  required "languageId" .str,
  required "version" .int32,
  required "text" .str]

/-- An identifier to denote a specific version of a text document. -/
def versionedTextDocumentIdentifier : Record :=
  extend .versionedTextDocumentIdentifier [textDocumentIdentifier] [
    required "version" .int32]

/-- An identifier which optionally denotes a specific version of a text document. -/
def optionalVersionedTextDocumentIdentifier : Record :=
  extend .optionalVersionedTextDocumentIdentifier [textDocumentIdentifier] [
    nullable (optional "version" .int32)]

/-- A parameter literal used in requests to pass a text document and a position inside it. -/
def textDocumentPositionParams : Record := record .textDocumentPositionParams [
  required "textDocument" (.record .textDocumentIdentifier),
  required "position" (.record .position)]

/-- Denotes a document through properties like language, scheme or pattern. -/
def documentFilter : Record := record .documentFilter [
  optional "language" .str,
  optional "scheme" .str,
  optional "pattern" .str]

/-- Filters, any of which a document may satisfy. -/
def documentSelector : Ty := .list (.record .documentFilter)

/-- A workspace folder. -/
def workspaceFolder : Record := record .workspaceFolder [required "uri" .uri, required "name" .str]

/-- A glob pattern relative to a workspace folder or base URI. -/
def relativePattern : Record := record .relativePattern [
  required "baseUri" (.oneOf [.record .workspaceFolder, .uri]),
  required "pattern" .str]

/-- A glob pattern, plain or relative to a folder. -/
def globPattern : Ty := .oneOf [.str, .record .relativePattern]

end LspWire.Schema
