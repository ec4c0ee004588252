import LspWire.Schema.Record
import LspWire.Records.Location
import LspWire.Records.Registration

/-!
# Declarations, definitions, references and highlights
-/

namespace LspWire.Schema

def declarationOptions : Record := extend .declarationOptions [workDoneProgressOptions] []

def declarationRegistrationOptions : Record :=
  extend .declarationRegistrationOptions
    [declarationOptions, textDocumentRegistrationOptions, staticRegistrationOptions] []

def declarationProviderCapability : Ty := .provider true .declarationOptions .declarationRegistrationOptions

def declarationParams : Record :=
  extend .declarationParams [textDocumentPositionParams, workDoneProgressParams, partialResultParams] []

def definitionOptions : Record := extend .definitionOptions [workDoneProgressOptions] []

def definitionRegistrationOptions : Record :=
  extend .definitionRegistrationOptions [textDocumentRegistrationOptions, definitionOptions] []

def definitionProviderCapability : Ty := .oneOf [.bool, .record .definitionOptions]

def definitionParams : Record :=
  extend .definitionParams [textDocumentPositionParams, workDoneProgressParams, partialResultParams] []

def typeDefinitionOptions : Record := extend .typeDefinitionOptions [workDoneProgressOptions] []

def typeDefinitionRegistrationOptions : Record :=
  extend .typeDefinitionRegistrationOptions
    [textDocumentRegistrationOptions, typeDefinitionOptions, staticRegistrationOptions] []

def typeDefinitionProviderCapability : Ty := .provider true .typeDefinitionOptions .typeDefinitionRegistrationOptions

def typeDefinitionParams : Record :=
  extend .typeDefinitionParams [textDocumentPositionParams, workDoneProgressParams, partialResultParams] []

def implementationOptions : Record := extend .implementationOptions [workDoneProgressOptions] []

def implementationRegistrationOptions : Record :=
  extend .implementationRegistrationOptions
    [textDocumentRegistrationOptions, implementationOptions, staticRegistrationOptions] []

def implementationProviderCapability : Ty := .provider true .implementationOptions .implementationRegistrationOptions

def implementationParams : Record :=
  extend .implementationParams [textDocumentPositionParams, workDoneProgressParams, partialResultParams] []

/-- A location, several locations, or links with origin and target spans. -/
def gotoDefinitionResponse : Ty :=
  .oneOf [
    .record .location,
    .list (.record .location),
    .list (.record .locationLink)]

def referenceOptions : Record := extend .referenceOptions [workDoneProgressOptions] []

def referenceRegistrationOptions : Record :=
  extend .referenceRegistrationOptions [textDocumentRegistrationOptions, referenceOptions] []

/-- Additional information for a references request. -/
def referenceContext : Record := record .referenceContext [required "includeDeclaration" .bool]

def referenceParams : Record :=
  extend .referenceParams [textDocumentPositionParams, workDoneProgressParams, partialResultParams] [
    required "context" (.record .referenceContext)]

def documentHighlightOptions : Record := extend .documentHighlightOptions [workDoneProgressOptions] []

def documentHighlightRegistrationOptions : Record :=
  extend .documentHighlightRegistrationOptions [textDocumentRegistrationOptions, documentHighlightOptions] []

def documentHighlightParams : Record :=
  extend .documentHighlightParams [textDocumentPositionParams, workDoneProgressParams, partialResultParams] []

/-- A range inside a text document which deserves special attention. -/
def documentHighlight : Record := record .documentHighlight [
  required "range" (.record .range),
  optional "kind" (.intEnum .documentHighlightKind)]

end LspWire.Schema
