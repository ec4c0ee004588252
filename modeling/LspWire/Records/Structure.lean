import LspWire.Schema.Record
import LspWire.Records.Location
import LspWire.Records.Registration

/-!
# Folding, selection and linked ranges
-/

namespace LspWire.Schema

def foldingRangeKindCapability : Record := record .foldingRangeKindCapability [
  optional "valueSet" (.list (.openEnum .foldingRangeKind))]

def foldingRangeCapability : Record := record .foldingRangeCapability [optional "collapsedText" .bool]

/-- Client capabilities for `textDocument/foldingRange`. -/
def foldingRangeClientCapabilities : Record := record .foldingRangeClientCapabilities [
  optional "dynamicRegistration" .bool,
  optional "rangeLimit" .uint32,
  optional "lineFoldingOnly" .bool,
  optional "foldingRangeKind" (.record .foldingRangeKindCapability),
  optional "foldingRange" (.record .foldingRangeCapability)]

def foldingRangeOptions : Record := extend .foldingRangeOptions [workDoneProgressOptions] []

def foldingRangeRegistrationOptions : Record :=
  extend .foldingRangeRegistrationOptions
    [textDocumentRegistrationOptions, foldingRangeOptions, staticRegistrationOptions] []

def foldingRangeProviderCapability : Ty := .provider true .foldingRangeOptions .foldingRangeRegistrationOptions

def foldingRangeParams : Record := extend .foldingRangeParams [workDoneProgressParams, partialResultParams] [
  required "textDocument" (.record .textDocumentIdentifier)]

/-- A folding range. -/
def foldingRange : Record := record .foldingRange [
  required "startLine" .uint32,
  optional "startCharacter" .uint32,
  required "endLine" .uint32,
  optional "endCharacter" .uint32,
  optional "kind" (.openEnum .foldingRangeKind),
  optional "collapsedText" .str]

def selectionRangeOptions : Record := extend .selectionRangeOptions [workDoneProgressOptions] []

def selectionRangeRegistrationOptions : Record :=
  extend .selectionRangeRegistrationOptions
    [selectionRangeOptions, textDocumentRegistrationOptions, staticRegistrationOptions] []

def selectionRangeProviderCapability : Ty := .provider true .selectionRangeOptions .selectionRangeRegistrationOptions

/-- Parameters of the `textDocument/selectionRange` request. -/
def selectionRangeParams : Record :=
  extend .selectionRangeParams [workDoneProgressParams, partialResultParams] [
    required "textDocument" (.record .textDocumentIdentifier),
    required "positions" (.list (.record .position))]

/-- A selection range, optionally nested in a parent range that contains it. -/
def selectionRange : Record := record .selectionRange [
  required "range" (.record .range),
  optional "parent" (.record .selectionRange)]

def linkedEditingRangeOptions : Record := extend .linkedEditingRangeOptions [workDoneProgressOptions] []

def linkedEditingRangeRegistrationOptions : Record :=
  extend .linkedEditingRangeRegistrationOptions
    [textDocumentRegistrationOptions, linkedEditingRangeOptions, staticRegistrationOptions] []

def linkedEditingRangeServerCapabilities : Ty :=
  .provider true .linkedEditingRangeOptions .linkedEditingRangeRegistrationOptions

def linkedEditingRangeParams : Record :=
  extend .linkedEditingRangeParams [textDocumentPositionParams, workDoneProgressParams] []

/-- The result of a linked editing range request. -/
def linkedEditingRanges : Record := record .linkedEditingRanges [
  required "ranges" (.list (.record .range)),
  optional "wordPattern" .str]

end LspWire.Schema
