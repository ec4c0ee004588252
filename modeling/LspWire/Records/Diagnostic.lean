import LspWire.Schema.Record
import LspWire.Records.Registration

/-!
# Diagnostics, published and pulled
-/

namespace LspWire.Schema

/-- Structure to capture a description for an error code. -/
def codeDescription : Record := record .codeDescription [required "href" .uri]

/-- A related message and source code location for a diagnostic. -/
def diagnosticRelatedInformation : Record := record .diagnosticRelatedInformation [
  required "location" (.record .location),
  required "message" .str]

/-- A diagnostic, such as a compiler error or warning. -/
def diagnostic : Record := record .diagnostic [
  required "range" (.record .range),
  optional "severity" (.intEnum .diagnosticSeverity),
  optional "code" .numberOrString,
  optional "codeDescription" (.record .codeDescription),
  optional "source" .str,
  required "message" .str,
  optional "relatedInformation" (.list (.record .diagnosticRelatedInformation)),
  optional "tags" (.list (.intEnum .diagnosticTag)),
  optional "data" .any]

/-- Client capabilities for `textDocument/publishDiagnostics`; older clients write a boolean for the tags. -/
def publishDiagnosticsClientCapabilities : Record := record .publishDiagnosticsClientCapabilities [
  optional "relatedInformation" .bool,
  tagSupportOrFlag,
  optional "versionSupport" .bool,
  optional "codeDescriptionSupport" .bool,
  optional "dataSupport" .bool]

/-- Parameters of the `textDocument/publishDiagnostics` notification. -/
def publishDiagnosticsParams : Record := record .publishDiagnosticsParams [
  required "uri" .uri,
  required "diagnostics" (.list (.record .diagnostic)),
  optional "version" .int32]

def diagnosticClientCapabilities : Record := record .diagnosticClientCapabilities [
  optional "dynamicRegistration" .bool,
  optional "relatedDocumentSupport" .bool]

/-- Diagnostic options. -/
def diagnosticOptions : Record := extend .diagnosticOptions [workDoneProgressOptions] [
  optional "identifier" .str,
  required "interFileDependencies" .bool,
  required "workspaceDiagnostics" .bool]

def diagnosticRegistrationOptions : Record :=
  extend .diagnosticRegistrationOptions
    [textDocumentRegistrationOptions, diagnosticOptions, staticRegistrationOptions] []

/-- Pull diagnostics as a server offers them. -/
def diagnosticServerCapabilities : Ty := .provider false .diagnosticOptions .diagnosticRegistrationOptions

/-- Parameters of the `textDocument/diagnostic` request. -/
def documentDiagnosticParams : Record :=
  extend .documentDiagnosticParams [workDoneProgressParams, partialResultParams] [
    required "textDocument" (.record .textDocumentIdentifier),
    optional "identifier" .str,
    optional "previousResultId" .str]

/-- A diagnostic report with a full set of problems. -/
def fullDocumentDiagnosticReport : Record := record .fullDocumentDiagnosticReport [
  tag "kind" "full",
  optional "resultId" .str,
  required "items" (.list (.record .diagnostic))]

/-- A report indicating that the last returned report is still accurate. -/
def unchangedDocumentDiagnosticReport : Record := record .unchangedDocumentDiagnosticReport [
  tag "kind" "unchanged",
  required "resultId" .str]

/-- A report on one document, told by its `kind`. -/
def documentDiagnosticReportVariant : Ty :=
  .tagged "kind" [
    ("full", .record .fullDocumentDiagnosticReport),
    ("unchanged", .record .unchangedDocumentDiagnosticReport)]

/-- A full diagnostic report with a set of related documents. -/
def relatedFullDocumentDiagnosticReport : Record :=
  extend .relatedFullDocumentDiagnosticReport [fullDocumentDiagnosticReport] [
    optional "relatedDocuments" (.map .uri documentDiagnosticReportVariant)]

def relatedUnchangedDocumentDiagnosticReport : Record :=
  extend .relatedUnchangedDocumentDiagnosticReport [unchangedDocumentDiagnosticReport] [
    optional "relatedDocuments" (.map .uri documentDiagnosticReportVariant)]

/-- A report on one document with its related documents. -/
def documentDiagnosticReport : Ty :=
  .tagged "kind" [
    ("full", .record .relatedFullDocumentDiagnosticReport),
    ("unchanged", .record .relatedUnchangedDocumentDiagnosticReport)]

def documentDiagnosticReportPartialResult : Record := record .documentDiagnosticReportPartialResult [
  required "relatedDocuments" (.map .uri documentDiagnosticReportVariant)]

/-- A report, or a part of one; a part has no `kind` and is never taken for a report. -/
def documentDiagnosticReportResult : Ty :=
  .oneOf [
    documentDiagnosticReport,
    .record .documentDiagnosticReportPartialResult]

def diagnosticServerCancellationData : Record := record .diagnosticServerCancellationData [
  required "retriggerRequest" .bool]

/-- A previous result id in a workspace pull request. -/
def previousResultId : Record := record .previousResultId [required "uri" .uri, required "value" .str]

def workspaceDiagnosticParams : Record :=
  extend .workspaceDiagnosticParams [workDoneProgressParams, partialResultParams] [
    optional "identifier" .str,
    required "previousResultIds" (.list (.record .previousResultId))]

/-- A full document diagnostic report for a workspace diagnostic result. -/
def workspaceFullDocumentDiagnosticReport : Record :=
  extend .workspaceFullDocumentDiagnosticReport [fullDocumentDiagnosticReport] [
    required "uri" .uri,
    nullable (optional "version" .int32)]

def workspaceUnchangedDocumentDiagnosticReport : Record :=
  extend .workspaceUnchangedDocumentDiagnosticReport [unchangedDocumentDiagnosticReport] [
    required "uri" .uri,
    nullable (optional "version" .int32)]

/-- A report on one document of a workspace. -/
def workspaceDocumentDiagnosticReport : Ty :=
  .tagged "kind" [
    ("full", .record .workspaceFullDocumentDiagnosticReport),
    ("unchanged", .record .workspaceUnchangedDocumentDiagnosticReport)]

def workspaceDiagnosticReport : Record := record .workspaceDiagnosticReport [
  required "items" (.list workspaceDocumentDiagnosticReport)]

def workspaceDiagnosticReportPartialResult : Record := record .workspaceDiagnosticReportPartialResult [
  required "items" (.list workspaceDocumentDiagnosticReport)]

end LspWire.Schema
