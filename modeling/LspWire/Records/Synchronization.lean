import LspWire.Schema.Record
import LspWire.Records.Registration

/-!
# Document synchronization
-/

namespace LspWire.Schema

/-- Save options. -/
def saveOptions : Record := record .saveOptions [optional "includeText" .bool]

/-- Whether save notifications are sent, or how. -/
def textDocumentSyncSaveOptions : Ty := .oneOf [.bool, .record .saveOptions]

/-- Detailed text document sync options advertised by the server. -/
def textDocumentSyncOptions : Record := record .textDocumentSyncOptions [
  optional "openClose" .bool,
  optional "change" (.intEnum .textDocumentSyncKind),
  optional "willSave" .bool,
  optional "willSaveWaitUntil" .bool,
  optional "save" textDocumentSyncSaveOptions]

/-- How documents are synchronized; the bare kind is the older form. -/
def textDocumentSyncCapability : Ty := .oneOf [.intEnum .textDocumentSyncKind, .record .textDocumentSyncOptions]

def textDocumentSyncClientCapabilities : Record := record .textDocumentSyncClientCapabilities [
  optional "dynamicRegistration" .bool,
  optional "willSave" .bool,
  optional "willSaveWaitUntil" .bool,
  optional "didSave" .bool]

/-- Parameters of the `textDocument/didOpen` notification. -/
def didOpenTextDocumentParams : Record := record .didOpenTextDocumentParams [
  required "textDocument" (.record .textDocumentItem)]

/-- Describe options to be used when registering for text document change events. -/
def textDocumentChangeRegistrationOptions : Record :=
  extend .textDocumentChangeRegistrationOptions [textDocumentRegistrationOptions] [
    required "syncKind" (.intEnum .textDocumentSyncKind)]

/-- A content change event in a text document. -/
def textDocumentContentChangeEvent : Record := record .textDocumentContentChangeEvent [
  optional "range" (.record .range),
  optional "rangeLength" .uint32,
  required "text" .str]

/-- Parameters of the `textDocument/didChange` notification. -/
def didChangeTextDocumentParams : Record := record .didChangeTextDocumentParams [
  required "textDocument" (.record .versionedTextDocumentIdentifier),
  required "contentChanges" (.list (.record .textDocumentContentChangeEvent))]

/-- The parameters sent in a will save text document notification. -/
def willSaveTextDocumentParams : Record := record .willSaveTextDocumentParams [
  required "textDocument" (.record .textDocumentIdentifier),
  required "reason" (.intEnum .textDocumentSaveReason)]

def textDocumentSaveRegistrationOptions : Record :=
  extend .textDocumentSaveRegistrationOptions [textDocumentRegistrationOptions] [
    optional "includeText" .bool]

/-- Parameters of the `textDocument/didSave` notification. -/
def didSaveTextDocumentParams : Record := record .didSaveTextDocumentParams [
  required "textDocument" (.record .textDocumentIdentifier),
  optional "text" .str]

def didCloseTextDocumentParams : Record := record .didCloseTextDocumentParams [
  required "textDocument" (.record .textDocumentIdentifier)]

end LspWire.Schema
