import LspWire.Schema.Record

/-!
# Text edits and workspace edits
-/

namespace LspWire.Schema

/-- A text edit applicable to a text document. -/
def textEdit : Record := record .textEdit [required "range" (.record .range), required "newText" .str]

/-- A special text edit with an additional change annotation. -/
def annotatedTextEdit : Record := extend .annotatedTextEdit [textEdit] [required "annotationId" .str]

/-- Describes textual changes on a single text document. -/
def textDocumentEdit : Record := record .textDocumentEdit [
  required "textDocument" (.record .optionalVersionedTextDocumentIdentifier),
  required "edits" (.list (.oneOf [.record .annotatedTextEdit, .record .textEdit]))]

/-- Additional information that describes document changes. -/
def changeAnnotationEntry : Record := record .changeAnnotationEntry [
  required "label" .str,
  optional "needsConfirmation" .bool,
  optional "description" .str]

/-- Options to create a file. -/
def createFileOptions : Record := record .createFileOptions [
  optional "overwrite" .bool,
  optional "ignoreIfExists" .bool]

/-- Create file operation. -/
def createFile : Record := record .createFile [
  tag "kind" "create",
  required "uri" .uri,
  optional "options" (.record .createFileOptions),
  optional "annotationId" .str]

/-- Rename file options. -/
def renameFileOptions : Record := record .renameFileOptions [
  optional "overwrite" .bool,
  optional "ignoreIfExists" .bool]

/-- Rename file operation. -/
def renameFile : Record := record .renameFile [
  tag "kind" "rename",
  required "oldUri" .uri,
  required "newUri" .uri,
  optional "options" (.record .renameFileOptions),
  optional "annotationId" .str]

/-- Delete file options. -/
def deleteFileOptions : Record := record .deleteFileOptions [
  optional "recursive" .bool,
  optional "ignoreIfNotExists" .bool]

/-- Delete file operation. -/
def deleteFile : Record := record .deleteFile [
  tag "kind" "delete",
  required "uri" .uri,
  optional "options" (.record .deleteFileOptions),
  optional "annotationId" .str]

/-- An operation on a file, told by its `kind`. -/
def resourceOp : Ty :=
  .tagged "kind" [
    ("create", .record .createFile),
    ("rename", .record .renameFile),
    ("delete", .record .deleteFile)]

/-- An operation on a file or the edits of one document. -/
def documentChangeOperation : Ty := .oneOf [resourceOp, .record .textDocumentEdit]

/-- The edits of documents, alone or mixed with operations on files. -/
def documentChanges : Ty := .oneOf [.list (.record .textDocumentEdit), .list documentChangeOperation]

/-- A workspace edit represents changes to many resources managed in the workspace. -/
def workspaceEdit : Record := record .workspaceEdit [
  optional "changes" (.map .uri (.list (.record .textEdit))),
  optional "documentChanges" documentChanges,
  optional "changeAnnotations" (.map .text (.record .changeAnnotationEntry))]

def changeAnnotationWorkspaceEditClientCapabilities : Record :=
  record .changeAnnotationWorkspaceEditClientCapabilities [
    optional "groupsOnLabel" .bool]

/-- Client capabilities for workspace edits. -/
def workspaceEditClientCapabilities : Record := record .workspaceEditClientCapabilities [
  optional "documentChanges" .bool,
  optional "resourceOperations" (.list (.closedEnum .resourceOperationKind)),
  optional "failureHandling" (.closedEnum .failureHandlingKind),
  optional "normalizesLineEndings" .bool,
  optional "changeAnnotationSupport" (.record .changeAnnotationWorkspaceEditClientCapabilities)]

/-- Parameters of the `workspace/applyEdit` request. -/
def applyWorkspaceEditParams : Record := record .applyWorkspaceEditParams [
  optional "label" .str,
  required "edit" (.record .workspaceEdit)]

/-- The result returned from the apply workspace edit request. -/
def applyWorkspaceEditResult : Record := record .applyWorkspaceEditResult [
  required "applied" .bool,
  optional "failureReason" .str,
  optional "failedChange" .integer]

end LspWire.Schema
