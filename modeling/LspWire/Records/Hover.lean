import LspWire.Schema.Record
import LspWire.Records.Location
import LspWire.Records.Registration
import LspWire.Records.Markup

/-!
# Hover and signature help
-/

namespace LspWire.Schema

/-- Client capabilities for `textDocument/hover`. -/
def hoverClientCapabilities : Record := record .hoverClientCapabilities [
  optional "dynamicRegistration" .bool,
  optional "contentFormat" (.list (.closedEnum .markupKind))]

def hoverOptions : Record := extend .hoverOptions [workDoneProgressOptions] []

def hoverRegistrationOptions : Record :=
  extend .hoverRegistrationOptions [textDocumentRegistrationOptions, hoverOptions] []

def hoverProviderCapability : Ty := .oneOf [.bool, .record .hoverOptions]

def hoverParams : Record := extend .hoverParams [textDocumentPositionParams, workDoneProgressParams] []

/-- The contents of a hover in one of its three forms. -/
def hoverContents : Ty := .oneOf [.record .markupContent, markedString, .list markedString]

/-- The result of a hover request. -/
def hover : Record := record .hover [required "contents" hoverContents, optional "range" (.record .range)]

def parameterInformationSettings : Record := record .parameterInformationSettings [
  optional "labelOffsetSupport" .bool]

def signatureInformationSettings : Record := record .signatureInformationSettings [
  optional "documentationFormat" (.list (.closedEnum .markupKind)),
  optional "parameterInformation" (.record .parameterInformationSettings),
  optional "activeParameterSupport" .bool]

def signatureHelpClientCapabilities : Record := record .signatureHelpClientCapabilities [
  optional "dynamicRegistration" .bool,
  optional "signatureInformation" (.record .signatureInformationSettings),
  optional "contextSupport" .bool]

/-- Signature help options advertised by the server. -/
def signatureHelpOptions : Record := extend .signatureHelpOptions [workDoneProgressOptions] [
  optional "triggerCharacters" (.list .str),
  optional "retriggerCharacters" (.list .str)]

def signatureHelpRegistrationOptions : Record :=
  extend .signatureHelpRegistrationOptions [textDocumentRegistrationOptions, signatureHelpOptions] []

/-- The label itself, or the offsets of its start and end in the label of the signature. -/
def parameterLabel : Ty := .oneOf [.str, .pair .uint32 .uint32]

/-- A parameter of a callable-signature. -/
def parameterInformation : Record := record .parameterInformation [
  required "label" parameterLabel,
  optional "documentation" documentation]

/-- The signature of something callable. -/
def signatureInformation : Record := record .signatureInformation [
  required "label" .str,
  optional "documentation" documentation,
  optional "parameters" (.list (.record .parameterInformation)),
  optional "activeParameter" .uint32]

/-- The signature of something callable, with the active signature and parameter. -/
def signatureHelp : Record := record .signatureHelp [
  required "signatures" (.list (.record .signatureInformation)),
  optional "activeSignature" .uint32,
  optional "activeParameter" .uint32]

/-- Additional information about the context in which a signature help request was triggered. -/
def signatureHelpContext : Record := record .signatureHelpContext [
  required "triggerKind" (.intEnum .signatureHelpTriggerKind),
  optional "triggerCharacter" .str,
  required "isRetrigger" .bool,
  optional "activeSignatureHelp" (.record .signatureHelp)]

def signatureHelpParams : Record :=
  extend .signatureHelpParams [textDocumentPositionParams, workDoneProgressParams] [
    optional "context" (.record .signatureHelpContext)]

end LspWire.Schema
