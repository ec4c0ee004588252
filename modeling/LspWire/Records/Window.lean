import LspWire.Schema.Record

/-!
# Messages, progress and tracing
-/

namespace LspWire.Schema

/-- An action that a message offers; other properties are kept and sent back. -/
def messageActionItem : Record := openRecord .messageActionItem [required "title" .str]

/-- Parameters of the `window/showMessage` notification. -/
def showMessageParams : Record := record .showMessageParams [
  required "type" (.intEnum .messageType),
  required "message" .str]

/-- Parameters of the `window/showMessageRequest` request. -/
def showMessageRequestParams : Record := record .showMessageRequestParams [
  required "type" (.intEnum .messageType),
  required "message" .str,
  optional "actions" (.list (.record .messageActionItem))]

def messageActionItemCapabilities : Record := record .messageActionItemCapabilities [
  optional "additionalPropertiesSupport" .bool]

def showMessageRequestClientCapabilities : Record := record .showMessageRequestClientCapabilities [
  optional "messageActionItem" (.record .messageActionItemCapabilities)]

def logMessageParams : Record := record .logMessageParams [
  required "type" (.intEnum .messageType),
  required "message" .str]

/-- Client capabilities for the show document request. -/
def showDocumentClientCapabilities : Record := record .showDocumentClientCapabilities [required "support" .bool]

/-- Params to show a resource. -/
def showDocumentParams : Record := record .showDocumentParams [
  required "uri" .uri,
  optional "external" .bool,
  optional "takeFocus" .bool,
  optional "selection" (.record .range)]

def showDocumentResult : Record := record .showDocumentResult [required "success" .bool]

/-- Window specific client capabilities. -/
def windowClientCapabilities : Record := record .windowClientCapabilities [
  optional "workDoneProgress" .bool,
  optional "showMessage" (.record .showMessageRequestClientCapabilities),
  optional "showDocument" (.record .showDocumentClientCapabilities)]

def workDoneProgressCreateParams : Record := record .workDoneProgressCreateParams [required "token" .numberOrString]

def workDoneProgressCancelParams : Record := record .workDoneProgressCancelParams [required "token" .numberOrString]

/-- The beginning of a work done progress. -/
def workDoneProgressBegin : Record := record .workDoneProgressBegin [
  tag "kind" "begin",
  required "title" .str,
  optional "cancellable" .bool,
  optional "message" .str,
  optional "percentage" .percentage]

/-- A report of ongoing work done progress. -/
def workDoneProgressReport : Record := record .workDoneProgressReport [
  tag "kind" "report",
  optional "cancellable" .bool,
  optional "message" .str,
  optional "percentage" .percentage]

/-- The end of a work done progress. -/
def workDoneProgressEnd : Record := record .workDoneProgressEnd [tag "kind" "end", optional "message" .str]

/-- A step of a progress report, told by its `kind`. -/
def workDoneProgress : Ty :=
  .tagged "kind" [
    ("begin", .record .workDoneProgressBegin),
    ("report", .record .workDoneProgressReport),
    ("end", .record .workDoneProgressEnd)]

/-- A step of a progress report, or any value, such as a partial result. -/
def progressParamsValue : Ty := .oneOf [workDoneProgress, .any]

/-- Parameters of the `$/progress` notification. -/
def progressParams : Record := record .progressParams [
  required "token" .numberOrString,
  nullable (required "value" progressParamsValue)]

def setTraceParams : Record := record .setTraceParams [required "value" (.closedEnum .traceValue)]

/-- Parameters of the `$/logTrace` notification. -/
def logTraceParams : Record := record .logTraceParams [required "message" .str, optional "verbose" .str]

end LspWire.Schema
