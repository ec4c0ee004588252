import LspWire.Schema.Record
import LspWire.Records.Location
import LspWire.Records.Registration

/-!
# Call hierarchies, type hierarchies and monikers
-/

namespace LspWire.Schema

def callHierarchyOptions : Record := extend .callHierarchyOptions [workDoneProgressOptions] []

def callHierarchyRegistrationOptions : Record :=
  extend .callHierarchyRegistrationOptions
    [textDocumentRegistrationOptions, callHierarchyOptions, staticRegistrationOptions] []

def callHierarchyServerCapability : Ty := .provider true .callHierarchyOptions .callHierarchyRegistrationOptions

def callHierarchyPrepareParams : Record :=
  extend .callHierarchyPrepareParams [textDocumentPositionParams, workDoneProgressParams] []

/-- Programming constructs like functions or constructors in the context of call hierarchy. -/
def callHierarchyItem : Record := record .callHierarchyItem [
  required "name" .str,
  required "kind" (.intEnum .symbolKind),
  optional "tags" (.list (.intEnum .symbolTag)),
  optional "detail" .str,
  required "uri" .uri,
  required "range" (.record .range),
  required "selectionRange" (.record .range),
  optional "data" .any]

def callHierarchyIncomingCallsParams : Record :=
  extend .callHierarchyIncomingCallsParams [workDoneProgressParams, partialResultParams] [
    required "item" (.record .callHierarchyItem)]

/-- An incoming call: the caller, and the ranges of the calls in it. The wire name of the caller is `from`. -/
def callHierarchyIncomingCall : Record := record .callHierarchyIncomingCall [
  renamed "from" (required "from_" (.record .callHierarchyItem)),
  required "fromRanges" (.list (.record .range))]

def callHierarchyOutgoingCallsParams : Record :=
  extend .callHierarchyOutgoingCallsParams [workDoneProgressParams, partialResultParams] [
    required "item" (.record .callHierarchyItem)]

/-- An outgoing call: the callee, and the ranges of the calls to it. -/
def callHierarchyOutgoingCall : Record := record .callHierarchyOutgoingCall [
  required "to" (.record .callHierarchyItem),
  required "fromRanges" (.list (.record .range))]

def typeHierarchyOptions : Record := extend .typeHierarchyOptions [workDoneProgressOptions] []

def typeHierarchyRegistrationOptions : Record :=
  extend .typeHierarchyRegistrationOptions
    [textDocumentRegistrationOptions, typeHierarchyOptions, staticRegistrationOptions] []

def typeHierarchyServerCapabilities : Ty := .provider true .typeHierarchyOptions .typeHierarchyRegistrationOptions

def typeHierarchyPrepareParams : Record :=
  extend .typeHierarchyPrepareParams [textDocumentPositionParams, workDoneProgressParams] []

/-- A type in the context of a type hierarchy. -/
def typeHierarchyItem : Record := record .typeHierarchyItem [
  required "name" .str,
  required "kind" (.intEnum .symbolKind),
  optional "tags" (.list (.intEnum .symbolTag)),
  optional "detail" .str,
  required "uri" .uri,
  required "range" (.record .range),
  required "selectionRange" (.record .range),
  optional "data" .any]

def typeHierarchySupertypesParams : Record :=
  extend .typeHierarchySupertypesParams [workDoneProgressParams, partialResultParams] [
    required "item" (.record .typeHierarchyItem)]

def typeHierarchySubtypesParams : Record :=
  extend .typeHierarchySubtypesParams [workDoneProgressParams, partialResultParams] [
    required "item" (.record .typeHierarchyItem)]

def monikerOptions : Record := extend .monikerOptions [workDoneProgressOptions] []

def monikerRegistrationOptions : Record :=
  extend .monikerRegistrationOptions [textDocumentRegistrationOptions, monikerOptions] []

def monikerServerCapabilities : Ty := .provider true .monikerOptions .monikerRegistrationOptions

def monikerParams : Record :=
  extend .monikerParams [textDocumentPositionParams, workDoneProgressParams, partialResultParams] []

/-- A moniker in the form of the index format, version 0.5. -/
def moniker : Record := record .moniker [
  required "scheme" .str,
  required "identifier" .str,
  required "unique" (.closedEnum .uniquenessLevel),
  optional "kind" (.closedEnum .monikerKind)]

end LspWire.Schema
