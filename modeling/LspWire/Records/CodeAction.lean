import LspWire.Schema.Record
import LspWire.Records.Registration

/-!
# Code actions and code lenses
-/

namespace LspWire.Schema

def codeActionKindLiteralSupport : Record := record .codeActionKindLiteralSupport [
  required "valueSet" (.list (.openEnum .codeActionKind))]

def codeActionLiteralSupport : Record := record .codeActionLiteralSupport [
  required "codeActionKind" (.record .codeActionKindLiteralSupport)]

/-- Client capabilities for `textDocument/codeAction`. -/
def codeActionClientCapabilities : Record := record .codeActionClientCapabilities [
  optional "dynamicRegistration" .bool,
  optional "codeActionLiteralSupport" (.record .codeActionLiteralSupport),
  optional "isPreferredSupport" .bool,
  optional "disabledSupport" .bool,
  optional "dataSupport" .bool,
  optional "resolveSupport" (.record .resolveSupport),
  optional "honorsChangeAnnotations" .bool]

/-- Code action options advertised by the server. -/
def codeActionOptions : Record := extend .codeActionOptions [workDoneProgressOptions] [
  optional "codeActionKinds" (.list (.openEnum .codeActionKind)),
  optional "resolveProvider" .bool]

def codeActionRegistrationOptions : Record :=
  extend .codeActionRegistrationOptions [textDocumentRegistrationOptions, codeActionOptions] []

def codeActionProviderCapability : Ty := .oneOf [.bool, .record .codeActionOptions]

/-- Contains additional diagnostic information about the context in which a code action is run. -/
def codeActionContext : Record := record .codeActionContext [
  required "diagnostics" (.list (.record .diagnostic)),
  optional "only" (.list (.openEnum .codeActionKind)),
  optional "triggerKind" (.intEnum .codeActionTriggerKind)]

/-- Params for the `textDocument/codeAction` request. -/
def codeActionParams : Record := extend .codeActionParams [workDoneProgressParams, partialResultParams] [
  required "textDocument" (.record .textDocumentIdentifier),
  required "range" (.record .range),
  required "context" (.record .codeActionContext)]

def codeActionDisabled : Record := record .codeActionDisabled [required "reason" .str]

/-- A change that can be performed in code, such as a fix for a problem or a refactoring. -/
def codeAction : Record := record .codeAction [
  required "title" .str,
  optional "kind" (.openEnum .codeActionKind),
  optional "diagnostics" (.list (.record .diagnostic)),
  optional "isPreferred" .bool,
  optional "disabled" (.record .codeActionDisabled),
  optional "edit" (.record .workspaceEdit),
  optional "command" (.record .command),
  optional "data" .any]

/-- A command has a text as its `command`; a code action never does. -/
def codeActionOrCommand : Ty := .oneOf [.record .command, .record .codeAction]

/-- Code actions and commands, in any order. -/
def codeActionResponse : Ty := .list codeActionOrCommand

def codeLensOptions : Record := extend .codeLensOptions [workDoneProgressOptions] [optional "resolveProvider" .bool]

def codeLensRegistrationOptions : Record :=
  extend .codeLensRegistrationOptions [textDocumentRegistrationOptions, codeLensOptions] []

def codeLensParams : Record := extend .codeLensParams [workDoneProgressParams, partialResultParams] [
  required "textDocument" (.record .textDocumentIdentifier)]

/-- A command that should be shown along with source text, like the number of references. -/
def codeLens : Record := record .codeLens [
  required "range" (.record .range),
  optional "command" (.record .command),
  optional "data" .any]

end LspWire.Schema
