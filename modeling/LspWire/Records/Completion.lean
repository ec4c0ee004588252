import LspWire.Schema.Record
import LspWire.Records.Location
import LspWire.Records.Registration
import LspWire.Records.Markup

/-!
# Completion
-/

namespace LspWire.Schema

def insertTextModeSupport : Record := record .insertTextModeSupport [
  required "valueSet" (.list (.intEnum .insertTextMode))]

/-- The client supports the following `CompletionItem` specific capabilities. -/
def completionItemCapability : Record := record .completionItemCapability [
  optional "snippetSupport" .bool,
  optional "commitCharactersSupport" .bool,
  optional "documentationFormat" (.list (.closedEnum .markupKind)),
  optional "deprecatedSupport" .bool,
  optional "preselectSupport" .bool,
  optional "tagSupport" (.record .tagSupportOfCompletionItemTag),
  optional "insertReplaceSupport" .bool,
  optional "resolveSupport" (.record .resolveSupport),
  optional "insertTextModeSupport" (.record .insertTextModeSupport),
  optional "labelDetailsSupport" .bool]

def completionItemKindCapability : Record := record .completionItemKindCapability [
  optional "valueSet" (.list (.intEnum .completionItemKind))]

/-- Capabilities specific to `CompletionList`. -/
def completionListCapability : Record := record .completionListCapability [optional "itemDefaults" (.list .str)]

def completionClientCapabilities : Record := record .completionClientCapabilities [
  optional "dynamicRegistration" .bool,
  optional "completionItem" (.record .completionItemCapability),
  optional "completionItemKind" (.record .completionItemKindCapability),
  optional "contextSupport" .bool,
  optional "insertTextMode" (.intEnum .insertTextMode),
  optional "completionList" (.record .completionListCapability)]

def completionOptionsCompletionItem : Record := record .completionOptionsCompletionItem [
  optional "labelDetailsSupport" .bool]

/-- Completion options advertised by the server. -/
def completionOptions : Record := extend .completionOptions [workDoneProgressOptions] [
  optional "triggerCharacters" (.list .str),
  optional "allCommitCharacters" (.list .str),
  optional "resolveProvider" .bool,
  optional "completionItem" (.record .completionOptionsCompletionItem)]

def completionRegistrationOptions : Record :=
  extend .completionRegistrationOptions [textDocumentRegistrationOptions, completionOptions] []

/-- Contains additional information about the context in which a completion request is triggered. -/
def completionContext : Record := record .completionContext [
  required "triggerKind" (.intEnum .completionTriggerKind),
  optional "triggerCharacter" .str]

/-- Parameters of the `textDocument/completion` request. -/
def completionParams : Record :=
  extend .completionParams [textDocumentPositionParams, workDoneProgressParams, partialResultParams] [
    optional "context" (.record .completionContext)]

/-- A special text edit to provide an insert and a replace operation. -/
def insertReplaceEdit : Record := record .insertReplaceEdit [
  required "newText" .str,
  required "insert" (.record .range),
  required "replace" (.record .range)]

/-- An edit, or one that tells inserting from replacing. -/
def completionTextEdit : Ty := .oneOf [.record .textEdit, .record .insertReplaceEdit]

/-- Additional details for a completion item label. -/
def completionItemLabelDetails : Record := record .completionItemLabelDetails [
  optional "detail" .str,
  optional "description" .str]

/-- A completion item represents a text snippet that is proposed to complete text that is being typed. -/
def completionItem : Record := record .completionItem [
  required "label" .str,
  optional "labelDetails" (.record .completionItemLabelDetails),
  optional "kind" (.intEnum .completionItemKind),
  optional "tags" (.list (.intEnum .completionItemTag)),
  optional "detail" .str,
  optional "documentation" documentation,
  optional "deprecated" .bool,
  optional "preselect" .bool,
  optional "sortText" .str,
  optional "filterText" .str,
  optional "insertText" .str,
  optional "insertTextFormat" (.intEnum .insertTextFormat),
  optional "insertTextMode" (.intEnum .insertTextMode),
  optional "textEdit" completionTextEdit,
  optional "textEditText" .str,
  optional "additionalTextEdits" (.list (.record .textEdit)),
  optional "commitCharacters" (.list .str),
  optional "command" (.record .command),
  optional "data" .any]

def insertReplaceRange : Record := record .insertReplaceRange [
  required "insert" (.record .range),
  required "replace" (.record .range)]

/-- Defaults applied to every item of a completion list that does not set them. -/
def completionListItemDefaults : Record := record .completionListItemDefaults [
  optional "commitCharacters" (.list .str),
  optional "editRange" (.oneOf [.record .range, .record .insertReplaceRange]),
  optional "insertTextFormat" (.intEnum .insertTextFormat),
  optional "insertTextMode" (.intEnum .insertTextMode),
  optional "data" .any]

/-- A collection of completion items to be presented in the editor. -/
def completionList : Record := record .completionList [
  required "isIncomplete" .bool,
  optional "itemDefaults" (.record .completionListItemDefaults),
  required "items" (.list (.record .completionItem))]

/-- Completion items, alone or as a list with defaults. -/
def completionResponse : Ty := .oneOf [.list (.record .completionItem), .record .completionList]

end LspWire.Schema
