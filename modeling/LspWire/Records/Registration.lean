import LspWire.Schema.Record
import LspWire.Records.Location

/-!
# Progress tokens, registration and shared capabilities
-/

namespace LspWire.Schema

/-- What requests that can report progress share. -/
def workDoneProgressParams : Record := record .workDoneProgressParams [optional "workDoneToken" .numberOrString]

/-- What requests that can stream partial results share. -/
def partialResultParams : Record := record .partialResultParams [optional "partialResultToken" .numberOrString]

/-- What options that advertise progress support share. -/
def workDoneProgressOptions : Record := record .workDoneProgressOptions [optional "workDoneProgress" .bool]

/-- Static registration options to be returned in the initialize request. -/
def staticRegistrationOptions : Record := record .staticRegistrationOptions [optional "id" .str]

/-- General text document registration options. -/
def textDocumentRegistrationOptions : Record := record .textDocumentRegistrationOptions [
  nullable (optional "documentSelector" documentSelector)]

/-- Text document registration options plus a static registration id. -/
def staticTextDocumentRegistrationOptions : Record :=
  extend .staticTextDocumentRegistrationOptions [textDocumentRegistrationOptions, staticRegistrationOptions] []

/-- Client capability that only states dynamic registration support. -/
def dynamicRegistrationClientCapabilities : Record := record .dynamicRegistrationClientCapabilities [
  optional "dynamicRegistration" .bool]

/-- Client capabilities shared by the goto requests. -/
def gotoCapability : Record := record .gotoCapability [
  optional "dynamicRegistration" .bool,
  optional "linkSupport" .bool]

/-- The tags a client supports for a kind of item, any tags at all here. -/
def tagSupport : Record := record .tagSupport [required "valueSet" (.list .any)]

def tagSupportOfCompletionItemTag : Record :=
  extend .tagSupportOfCompletionItemTag [tagSupport] [required "valueSet" (.list (.intEnum .completionItemTag))]

def tagSupportOfSymbolTag : Record :=
  extend .tagSupportOfSymbolTag [tagSupport] [required "valueSet" (.list (.intEnum .symbolTag))]

def tagSupportOfDiagnosticTag : Record :=
  extend .tagSupportOfDiagnosticTag [tagSupport] [required "valueSet" (.list (.intEnum .diagnosticTag))]

/-- The symbol kind values the client supports. -/
def symbolKindCapability : Record := record .symbolKindCapability [optional "valueSet" (.list (.intEnum .symbolKind))]

/-- The properties a client can resolve lazily. -/
def resolveSupport : Record := record .resolveSupport [required "properties" (.list .str)]

/-- Parameters of the `$/cancelRequest` notification. -/
def cancelParams : Record := record .cancelParams [required "id" .numberOrString]

/-- General parameters to register for a capability. -/
def registration : Record := record .registration [
  required "id" .str,
  required "method" .str,
  optional "registerOptions" .any]

def registrationParams : Record := record .registrationParams [
  required "registrations" (.list (.record .registration))]

/-- General parameters to unregister a capability. -/
def unregistration : Record := record .unregistration [required "id" .str, required "method" .str]

/-- Parameters of `client/unregisterCapability`; the protocol misspells the name of its list. -/
def unregistrationParams : Record := record .unregistrationParams [
  required "unregisterations" (.list (.record .unregistration))]

end LspWire.Schema
