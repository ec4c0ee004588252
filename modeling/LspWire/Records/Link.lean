import LspWire.Schema.Record
import LspWire.Records.Registration

/-!
# Document links and colors
-/

namespace LspWire.Schema

def documentLinkClientCapabilities : Record := record .documentLinkClientCapabilities [
  optional "dynamicRegistration" .bool,
  optional "tooltipSupport" .bool]

def documentLinkOptions : Record := extend .documentLinkOptions [workDoneProgressOptions] [
  optional "resolveProvider" .bool]

def documentLinkRegistrationOptions : Record :=
  extend .documentLinkRegistrationOptions [textDocumentRegistrationOptions, documentLinkOptions] []

def documentLinkParams : Record := extend .documentLinkParams [workDoneProgressParams, partialResultParams] [
  required "textDocument" (.record .textDocumentIdentifier)]

/-- A range in a text document that links to an internal or external resource. -/
def documentLink : Record := record .documentLink [
  required "range" (.record .range),
  optional "target" .uri,
  optional "tooltip" .str,
  optional "data" .any]

def documentColorOptions : Record := extend .documentColorOptions [workDoneProgressOptions] []

def documentColorRegistrationOptions : Record :=
  extend .documentColorRegistrationOptions
    [textDocumentRegistrationOptions, staticRegistrationOptions, documentColorOptions] []

def colorProviderCapability : Ty := .provider true .documentColorOptions .documentColorRegistrationOptions

def documentColorParams : Record :=
  extend .documentColorParams [workDoneProgressParams, partialResultParams] [
    required "textDocument" (.record .textDocumentIdentifier)]

/-- A color in RGBA space, each component in the range [0-1]. -/
def color : Record := record .color [
  required "red" .float,
  required "green" .float,
  required "blue" .float,
  required "alpha" .float]

def colorInformation : Record := record .colorInformation [
  required "range" (.record .range),
  required "color" (.record .color)]

/-- Parameters of the `textDocument/colorPresentation` request. -/
def colorPresentationParams : Record :=
  extend .colorPresentationParams [workDoneProgressParams, partialResultParams] [
    required "textDocument" (.record .textDocumentIdentifier),
    required "color" (.record .color),
    required "range" (.record .range)]

/-- A way to render a color as text. -/
def colorPresentation : Record := record .colorPresentation [
  required "label" .str,
  optional "textEdit" (.record .textEdit),
  optional "additionalTextEdits" (.list (.record .textEdit))]

end LspWire.Schema
