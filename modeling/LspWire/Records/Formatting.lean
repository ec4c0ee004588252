import LspWire.Schema.Record
import LspWire.Records.Location
import LspWire.Records.Registration

/-!
# Formatting and renaming
-/

namespace LspWire.Schema

/-- What options formatting should use; other properties are kept. -/
def formattingOptions : Record := openRecord .formattingOptions [
  required "tabSize" .uint32,
  required "insertSpaces" .bool,
  optional "trimTrailingWhitespace" .bool,
  optional "insertFinalNewline" .bool,
  optional "trimFinalNewlines" .bool]

def documentFormattingOptions : Record := extend .documentFormattingOptions [workDoneProgressOptions] []

def documentFormattingRegistrationOptions : Record :=
  extend .documentFormattingRegistrationOptions [textDocumentRegistrationOptions, documentFormattingOptions] []

def documentFormattingProviderCapability : Ty := .oneOf [.bool, .record .documentFormattingOptions]

def documentFormattingParams : Record := extend .documentFormattingParams [workDoneProgressParams] [
  required "textDocument" (.record .textDocumentIdentifier),
  required "options" (.record .formattingOptions)]

def documentRangeFormattingOptions : Record := extend .documentRangeFormattingOptions [workDoneProgressOptions] []

def documentRangeFormattingRegistrationOptions : Record :=
  extend .documentRangeFormattingRegistrationOptions
    [textDocumentRegistrationOptions, documentRangeFormattingOptions] []

def documentRangeFormattingProviderCapability : Ty := .oneOf [.bool, .record .documentRangeFormattingOptions]

def documentRangeFormattingParams : Record := extend .documentRangeFormattingParams [workDoneProgressParams] [
  required "textDocument" (.record .textDocumentIdentifier),
  required "range" (.record .range),
  required "options" (.record .formattingOptions)]

/-- Format document on type options. -/
def documentOnTypeFormattingOptions : Record := record .documentOnTypeFormattingOptions [
  required "firstTriggerCharacter" .str,
  optional "moreTriggerCharacter" (.list .str)]

def documentOnTypeFormattingRegistrationOptions : Record :=
  extend .documentOnTypeFormattingRegistrationOptions
    [textDocumentRegistrationOptions, documentOnTypeFormattingOptions] []

/-- Parameters of the `textDocument/onTypeFormatting` request. -/
def documentOnTypeFormattingParams : Record :=
  extend .documentOnTypeFormattingParams [textDocumentPositionParams] [
    required "ch" .str,
    required "options" (.record .formattingOptions)]

/-- Client capabilities for `textDocument/rename`. -/
def renameClientCapabilities : Record := record .renameClientCapabilities [
  optional "dynamicRegistration" .bool,
  optional "prepareSupport" .bool,
  optional "prepareSupportDefaultBehavior" (.intEnum .prepareSupportDefaultBehavior),
  optional "honorsChangeAnnotations" .bool]

def renameOptions : Record := extend .renameOptions [workDoneProgressOptions] [optional "prepareProvider" .bool]

def renameRegistrationOptions : Record :=
  extend .renameRegistrationOptions [textDocumentRegistrationOptions, renameOptions] []

def renameProviderCapability : Ty := .oneOf [.bool, .record .renameOptions]

/-- Parameters of the `textDocument/rename` request. -/
def renameParams : Record := extend .renameParams [textDocumentPositionParams, workDoneProgressParams] [
  required "newName" .str]

def prepareRenameParams : Record :=
  extend .prepareRenameParams [textDocumentPositionParams, workDoneProgressParams] []

def prepareRenamePlaceholder : Record := record .prepareRenamePlaceholder [
  required "range" (.record .range),
  required "placeholder" .str]

def prepareRenameDefaultBehavior : Record := record .prepareRenameDefaultBehavior [required "defaultBehavior" .bool]

/-- The range to rename, with a placeholder, or left to the client. -/
def prepareRenameResponse : Ty :=
  .oneOf [
    .record .range,
    .record .prepareRenamePlaceholder,
    .record .prepareRenameDefaultBehavior]

end LspWire.Schema
