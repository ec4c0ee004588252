import LspWire.Schema.Record
import LspWire.Records.Registration

/-!
# Symbols of documents and workspaces
-/

namespace LspWire.Schema

/-- Client capabilities for `textDocument/documentSymbol`. -/
def documentSymbolClientCapabilities : Record := record .documentSymbolClientCapabilities [
  optional "dynamicRegistration" .bool,
  optional "symbolKind" (.record .symbolKindCapability),
  optional "hierarchicalDocumentSymbolSupport" .bool,
  optional "tagSupport" (.record .tagSupportOfSymbolTag),
  optional "labelSupport" .bool]

def documentSymbolOptions : Record := extend .documentSymbolOptions [workDoneProgressOptions] [optional "label" .str]

def documentSymbolRegistrationOptions : Record :=
  extend .documentSymbolRegistrationOptions [textDocumentRegistrationOptions, documentSymbolOptions] []

def documentSymbolProviderCapability : Ty := .oneOf [.bool, .record .documentSymbolOptions]

def documentSymbolParams : Record :=
  extend .documentSymbolParams [workDoneProgressParams, partialResultParams] [
    required "textDocument" (.record .textDocumentIdentifier)]

/-- Programming constructs like variables, classes, interfaces etc. -/
def documentSymbol : Record := record .documentSymbol [
  required "name" .str,
  optional "detail" .str,
  required "kind" (.intEnum .symbolKind),
  optional "tags" (.list (.intEnum .symbolTag)),
  optional "deprecated" .bool,
  required "range" (.record .range),
  required "selectionRange" (.record .range),
  optional "children" (.list (.record .documentSymbol))]

/-- Information about programming constructs like variables, classes, interfaces etc. -/
def symbolInformation : Record := record .symbolInformation [
  required "name" .str,
  required "kind" (.intEnum .symbolKind),
  optional "tags" (.list (.intEnum .symbolTag)),
  optional "deprecated" .bool,
  required "location" (.record .location),
  optional "containerName" .str]

/-- Symbols as a flat list or as trees. -/
def documentSymbolResponse : Ty := .oneOf [.list (.record .symbolInformation), .list (.record .documentSymbol)]

/-- Client capabilities for `workspace/symbol`. -/
def workspaceSymbolClientCapabilities : Record := record .workspaceSymbolClientCapabilities [
  optional "dynamicRegistration" .bool,
  optional "symbolKind" (.record .symbolKindCapability),
  optional "tagSupport" (.record .tagSupportOfSymbolTag),
  optional "resolveSupport" (.record .resolveSupport)]

def workspaceSymbolOptions : Record := extend .workspaceSymbolOptions [workDoneProgressOptions] [
  optional "resolveProvider" .bool]

def workspaceSymbolRegistrationOptions : Record :=
  extend .workspaceSymbolRegistrationOptions [workspaceSymbolOptions] []

def workspaceSymbolProviderCapability : Ty := .oneOf [.bool, .record .workspaceSymbolOptions]

/-- Parameters of the `workspace/symbol` request. -/
def workspaceSymbolParams : Record :=
  extend .workspaceSymbolParams [workDoneProgressParams, partialResultParams] [
    required "query" .str]

def workspaceLocation : Record := record .workspaceLocation [required "uri" .uri]

/-- A special workspace symbol that supports locations without a range. -/
def workspaceSymbol : Record := record .workspaceSymbol [
  required "name" .str,
  required "kind" (.intEnum .symbolKind),
  optional "tags" (.list (.intEnum .symbolTag)),
  optional "containerName" .str,
  required "location" (.oneOf [.record .location, .record .workspaceLocation]),
  optional "data" .any]

/-- Symbols with full locations, or with locations that may lack a range. -/
def workspaceSymbolResponse : Ty := .oneOf [.list (.record .symbolInformation), .list (.record .workspaceSymbol)]

end LspWire.Schema
