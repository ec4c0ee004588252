import LspWire.Schema.Record
import LspWire.Records.Registration

/-!
# Notebooks
-/

namespace LspWire.Schema

/-- Execution information of a notebook cell. -/
def executionSummary : Record := record .executionSummary [
  required "executionOrder" .uint32,
  optional "success" .bool]

/-- A notebook cell. -/
def notebookCell : Record := record .notebookCell [
  required "kind" (.intEnum .notebookCellKind),
  required "document" .uri,
  optional "metadata" .object,
  optional "executionSummary" (.record .executionSummary)]

/-- A notebook document. -/
def notebookDocument : Record := record .notebookDocument [
  required "uri" .uri,
  required "notebookType" .str,
  required "version" .int32,
  optional "metadata" .object,
  required "cells" (.list (.record .notebookCell))]

/-- A notebook document filter denotes a notebook document by different properties. -/
def notebookDocumentFilter : Record := record .notebookDocumentFilter [
  optional "notebookType" .str,
  optional "scheme" .str,
  optional "pattern" .str]

def notebookCellSelector : Record := record .notebookCellSelector [required "language" .str]

/-- Selects notebooks by filter and, optionally, which of their cells to sync. -/
def notebookSelector : Record := record .notebookSelector [
  optional "notebook" (.oneOf [.str, .record .notebookDocumentFilter]),
  optional "cells" (.list (.record .notebookCellSelector))]

/-- Options specific to a notebook plus its cells to be synced to the server. -/
def notebookDocumentSyncOptions : Record := record .notebookDocumentSyncOptions [
  required "notebookSelector" (.list (.record .notebookSelector)),
  optional "save" .bool]

def notebookDocumentSyncRegistrationOptions : Record :=
  extend .notebookDocumentSyncRegistrationOptions [notebookDocumentSyncOptions, staticRegistrationOptions] []

/-- Notebook synchronization as a server offers it. -/
def notebookDocumentSyncServerCapabilities : Ty :=
  .provider false .notebookDocumentSyncOptions .notebookDocumentSyncRegistrationOptions

def notebookDocumentSyncClientCapabilities : Record := record .notebookDocumentSyncClientCapabilities [
  optional "dynamicRegistration" .bool,
  optional "executionSummarySupport" .bool]

def notebookDocumentClientCapabilities : Record := record .notebookDocumentClientCapabilities [
  required "synchronization" (.record .notebookDocumentSyncClientCapabilities)]

/-- The params sent in an open notebook document notification. -/
def didOpenNotebookDocumentParams : Record := record .didOpenNotebookDocumentParams [
  required "notebookDocument" (.record .notebookDocument),
  required "cellTextDocuments" (.list (.record .textDocumentItem))]

def versionedNotebookDocumentIdentifier : Record := record .versionedNotebookDocumentIdentifier [
  required "version" .int32,
  required "uri" .uri]

/-- A change that moves an array of cells from one state to the next. -/
def notebookCellArrayChange : Record := record .notebookCellArrayChange [
  required "start" .uint32,
  required "deleteCount" .uint32,
  optional "cells" (.list (.record .notebookCell))]

/-- Structural changes to the cells of a notebook. -/
def notebookDocumentCellChangeStructure : Record := record .notebookDocumentCellChangeStructure [
  required "array" (.record .notebookCellArrayChange),
  optional "didOpen" (.list (.record .textDocumentItem)),
  optional "didClose" (.list (.record .textDocumentIdentifier))]

def notebookDocumentCellContentChanges : Record := record .notebookDocumentCellContentChanges [
  required "document" (.record .versionedTextDocumentIdentifier),
  required "changes" (.list (.record .textDocumentContentChangeEvent))]

/-- Changes to cells. -/
def notebookDocumentCellChanges : Record := record .notebookDocumentCellChanges [
  optional "structure" (.record .notebookDocumentCellChangeStructure),
  optional "data" (.list (.record .notebookCell)),
  optional "textContent" (.list (.record .notebookDocumentCellContentChanges))]

def notebookDocumentChangeEvent : Record := record .notebookDocumentChangeEvent [
  optional "metadata" .object,
  optional "cells" (.record .notebookDocumentCellChanges)]

/-- The params sent in a change notebook document notification. -/
def didChangeNotebookDocumentParams : Record := record .didChangeNotebookDocumentParams [
  required "notebookDocument" (.record .versionedNotebookDocumentIdentifier),
  required "change" (.record .notebookDocumentChangeEvent)]

def notebookDocumentIdentifier : Record := record .notebookDocumentIdentifier [required "uri" .uri]

def didSaveNotebookDocumentParams : Record := record .didSaveNotebookDocumentParams [
  required "notebookDocument" (.record .notebookDocumentIdentifier)]

/-- The params sent in a close notebook document notification. -/
def didCloseNotebookDocumentParams : Record := record .didCloseNotebookDocumentParams [
  required "notebookDocument" (.record .notebookDocumentIdentifier),
  required "cellTextDocuments" (.list (.record .textDocumentIdentifier))]

end LspWire.Schema
