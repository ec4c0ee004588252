import LspWire.Schema.Record
import LspWire.Records.Location
import LspWire.Records.Registration
import LspWire.Records.Handshake

/-!
# Draft items: inline completion and the extended handshake
-/

namespace LspWire.Schema

def inlineCompletionClientCapabilities : Record := record .inlineCompletionClientCapabilities [
  optional "dynamicRegistration" .bool]

def inlineCompletionOptions : Record := extend .inlineCompletionOptions [workDoneProgressOptions] []

def inlineCompletionRegistrationOptions : Record :=
  extend .inlineCompletionRegistrationOptions
    [inlineCompletionOptions, textDocumentRegistrationOptions, staticRegistrationOptions] []

/-- The completion item currently selected in the completion widget. -/
def selectedCompletionInfo : Record := record .selectedCompletionInfo [
  required "range" (.record .range),
  required "text" .str]

def inlineCompletionContext : Record := record .inlineCompletionContext [
  required "triggerKind" (.intEnum .inlineCompletionTriggerKind),
  optional "selectedCompletionInfo" (.record .selectedCompletionInfo)]

def inlineCompletionParams : Record :=
  extend .inlineCompletionParams [textDocumentPositionParams, workDoneProgressParams] [
    required "context" (.record .inlineCompletionContext)]

/-- A snippet string, a template which allows to insert text and control the editor cursor. -/
def stringValue : Record := record .stringValue [tag "kind" "snippet", required "value" .str]

/-- An inline completion item represents a text snippet proposed inline to complete typed text. -/
def inlineCompletionItem : Record := record .inlineCompletionItem [
  required "insertText" (.oneOf [.str, .record .stringValue]),
  optional "filterText" .str,
  optional "range" (.record .range),
  optional "command" (.record .command)]

def inlineCompletionList : Record := record .inlineCompletionList [
  required "items" (.list (.record .inlineCompletionItem))]

/-- Inline completion items, in a list record or alone. -/
def inlineCompletionResponse : Ty := .oneOf [.record .inlineCompletionList, .list (.record .inlineCompletionItem)]

def draftTextDocumentClientCapabilities : Record :=
  extend .draftTextDocumentClientCapabilities [textDocumentClientCapabilities] [
    optional "inlineCompletion" (.record .inlineCompletionClientCapabilities)]

/-- Client capabilities including draft items. -/
def draftClientCapabilities : Record := extend .draftClientCapabilities [clientCapabilities] [
  optional "textDocument" (.record .draftTextDocumentClientCapabilities),
  optional "offsetEncoding" (.list .str)]

def draftInitializeParams : Record := extend .draftInitializeParams [initializeParams] [
  required "capabilities" (.record .draftClientCapabilities)]

def draftServerCapabilities : Record := extend .draftServerCapabilities [serverCapabilities] [
  optional "inlineCompletionProvider" (.oneOf [.bool, .record .inlineCompletionOptions])]

/-- The initialize result including draft items. -/
def draftInitializeResult : Record := extend .draftInitializeResult [initializeResult] [
  required "capabilities" (.record .draftServerCapabilities),
  optional "offsetEncoding" .str]

end LspWire.Schema
