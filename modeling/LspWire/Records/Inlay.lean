import LspWire.Schema.Record
import LspWire.Records.Registration

/-!
# Inline values and inlay hints
-/

namespace LspWire.Schema

def inlineValueOptions : Record := extend .inlineValueOptions [workDoneProgressOptions] []

def inlineValueRegistrationOptions : Record :=
  extend .inlineValueRegistrationOptions
    [inlineValueOptions, textDocumentRegistrationOptions, staticRegistrationOptions] []

def inlineValueServerCapabilities : Ty := .provider true .inlineValueOptions .inlineValueRegistrationOptions

/-- Additional information about the context of an inline value request. -/
def inlineValueContext : Record := record .inlineValueContext [
  required "frameId" .int32,
  required "stoppedLocation" (.record .range)]

def inlineValueParams : Record := extend .inlineValueParams [workDoneProgressParams] [
  required "textDocument" (.record .textDocumentIdentifier),
  required "range" (.record .range),
  required "context" (.record .inlineValueContext)]

def inlineValueText : Record := record .inlineValueText [required "range" (.record .range), required "text" .str]

/-- Provide inline value through a variable lookup. -/
def inlineValueVariableLookup : Record := record .inlineValueVariableLookup [
  required "range" (.record .range),
  optional "variableName" .str,
  required "caseSensitiveLookup" .bool]

def inlineValueEvaluatableExpression : Record := record .inlineValueEvaluatableExpression [
  required "range" (.record .range),
  optional "expression" .str]

/-- A value to show inline; an expression needs a range alone, so it comes last. -/
def inlineValue : Ty :=
  .oneOf [
    .record .inlineValueText,
    .record .inlineValueVariableLookup,
    .record .inlineValueEvaluatableExpression]

def inlayHintClientCapabilities : Record := record .inlayHintClientCapabilities [
  optional "dynamicRegistration" .bool,
  optional "resolveSupport" (.record .resolveSupport)]

def inlayHintOptions : Record := extend .inlayHintOptions [workDoneProgressOptions] [optional "resolveProvider" .bool]

def inlayHintRegistrationOptions : Record :=
  extend .inlayHintRegistrationOptions
    [inlayHintOptions, textDocumentRegistrationOptions, staticRegistrationOptions] []

def inlayHintServerCapabilities : Ty := .provider true .inlayHintOptions .inlayHintRegistrationOptions

def inlayHintParams : Record := extend .inlayHintParams [workDoneProgressParams] [
  required "textDocument" (.record .textDocumentIdentifier),
  required "range" (.record .range)]

/-- A plain text or marked-up content. -/
def inlayHintTooltip : Ty := .oneOf [.str, .record .markupContent]

/-- A part of an inlay hint label. -/
def inlayHintLabelPart : Record := record .inlayHintLabelPart [
  required "value" .str,
  optional "tooltip" inlayHintTooltip,
  optional "location" (.record .location),
  optional "command" (.record .command)]

/-- A text, or parts of a label. -/
def inlayHintLabel : Ty := .oneOf [.str, .list (.record .inlayHintLabelPart)]

/-- Inlay hint information. -/
def inlayHint : Record := record .inlayHint [
  required "position" (.record .position),
  required "label" inlayHintLabel,
  optional "kind" (.intEnum .inlayHintKind),
  optional "textEdits" (.list (.record .textEdit)),
  optional "tooltip" inlayHintTooltip,
  optional "paddingLeft" .bool,
  optional "paddingRight" .bool,
  optional "data" .any]

end LspWire.Schema
