import LspWire.Schema.Record
import LspWire.Records.Registration
import LspWire.Records.Diagnostic
import LspWire.Records.Synchronization
import LspWire.Records.Hover
import LspWire.Records.Navigation
import LspWire.Records.Symbol
import LspWire.Records.CodeAction
import LspWire.Records.Link
import LspWire.Records.Formatting
import LspWire.Records.Structure
import LspWire.Records.Hierarchy
import LspWire.Records.SemanticTokens
import LspWire.Records.Inlay
import LspWire.Records.Notebook

/-!
# Capabilities and the initialize handshake
-/

namespace LspWire.Schema

/-- Workspace specific client capabilities. -/
def workspaceClientCapabilities : Record := record .workspaceClientCapabilities [
  optional "applyEdit" .bool,
  optional "workspaceEdit" (.record .workspaceEditClientCapabilities),
  optional "didChangeConfiguration" (.record .dynamicRegistrationClientCapabilities),
  optional "didChangeWatchedFiles" (.record .didChangeWatchedFilesClientCapabilities),
  optional "symbol" (.record .workspaceSymbolClientCapabilities),
  optional "executeCommand" (.record .executeCommandClientCapabilities),
  optional "workspaceFolders" .bool,
  optional "configuration" .bool,
  optional "semanticTokens" (.record .refreshClientCapabilities),
  optional "codeLens" (.record .refreshClientCapabilities),
  optional "fileOperations" (.record .workspaceFileOperationsClientCapabilities),
  optional "inlineValue" (.record .refreshClientCapabilities),
  optional "inlayHint" (.record .refreshClientCapabilities),
  optional "diagnostics" (.record .refreshClientCapabilities)]

/-- Text document specific client capabilities, one entry per language feature. -/
def textDocumentClientCapabilities : Record := record .textDocumentClientCapabilities [
  optional "synchronization" (.record .textDocumentSyncClientCapabilities),
  optional "completion" (.record .completionClientCapabilities),
  optional "hover" (.record .hoverClientCapabilities),
  optional "signatureHelp" (.record .signatureHelpClientCapabilities),
  optional "declaration" (.record .gotoCapability),
  optional "definition" (.record .gotoCapability),
  optional "typeDefinition" (.record .gotoCapability),
  optional "implementation" (.record .gotoCapability),
  optional "references" (.record .dynamicRegistrationClientCapabilities),
  optional "documentHighlight" (.record .dynamicRegistrationClientCapabilities),
  optional "documentSymbol" (.record .documentSymbolClientCapabilities),
  optional "codeAction" (.record .codeActionClientCapabilities),
  optional "codeLens" (.record .dynamicRegistrationClientCapabilities),
  optional "documentLink" (.record .documentLinkClientCapabilities),
  optional "colorProvider" (.record .dynamicRegistrationClientCapabilities),
  optional "formatting" (.record .dynamicRegistrationClientCapabilities),
  optional "rangeFormatting" (.record .dynamicRegistrationClientCapabilities),
  optional "onTypeFormatting" (.record .dynamicRegistrationClientCapabilities),
  optional "rename" (.record .renameClientCapabilities),
  optional "publishDiagnostics" (.record .publishDiagnosticsClientCapabilities),
  optional "foldingRange" (.record .foldingRangeClientCapabilities),
  optional "selectionRange" (.record .dynamicRegistrationClientCapabilities),
  optional "linkedEditingRange" (.record .dynamicRegistrationClientCapabilities),
  optional "callHierarchy" (.record .dynamicRegistrationClientCapabilities),
  optional "semanticTokens" (.record .semanticTokensClientCapabilities),
  optional "moniker" (.record .dynamicRegistrationClientCapabilities),
  optional "typeHierarchy" (.record .dynamicRegistrationClientCapabilities),
  optional "inlineValue" (.record .dynamicRegistrationClientCapabilities),
  optional "inlayHint" (.record .inlayHintClientCapabilities),
  optional "diagnostic" (.record .diagnosticClientCapabilities)]

/-- How the client handles stale requests. -/
def staleRequestSupportClientCapabilities : Record := record .staleRequestSupportClientCapabilities [
  required "cancel" .bool,
  required "retryOnContentModified" (.list .str)]

def regularExpressionsClientCapabilities : Record := record .regularExpressionsClientCapabilities [
  required "engine" .str,
  optional "version" .str]

/-- Client capabilities specific to the used markdown parser. -/
def markdownClientCapabilities : Record := record .markdownClientCapabilities [
  required "parser" .str,
  optional "version" .str,
  optional "allowedTags" (.list .str)]

/-- General client capabilities. -/
def generalClientCapabilities : Record := record .generalClientCapabilities [
  optional "staleRequestSupport" (.record .staleRequestSupportClientCapabilities),
  optional "regularExpressions" (.record .regularExpressionsClientCapabilities),
  optional "markdown" (.record .markdownClientCapabilities),
  optional "positionEncodings" (.list (.openEnum .positionEncodingKind))]

/-- The capabilities provided by the client. -/
def clientCapabilities : Record := record .clientCapabilities [
  optional "workspace" (.record .workspaceClientCapabilities),
  optional "textDocument" (.record .textDocumentClientCapabilities),
  optional "notebookDocument" (.record .notebookDocumentClientCapabilities),
  optional "window" (.record .windowClientCapabilities),
  optional "general" (.record .generalClientCapabilities),
  optional "experimental" .any]

def workspaceServerCapabilities : Record := record .workspaceServerCapabilities [
  optional "workspaceFolders" (.record .workspaceFoldersServerCapabilities),
  optional "fileOperations" (.record .workspaceFileOperationsServerCapabilities)]

/-- The capabilities the language server provides. -/
def serverCapabilities : Record := record .serverCapabilities [
  optional "positionEncoding" (.openEnum .positionEncodingKind),
  optional "textDocumentSync" textDocumentSyncCapability,
  optional "notebookDocumentSync" notebookDocumentSyncServerCapabilities,
  optional "completionProvider" (.record .completionOptions),
  optional "hoverProvider" hoverProviderCapability,
  optional "signatureHelpProvider" (.record .signatureHelpOptions),
  optional "declarationProvider" declarationProviderCapability,
  optional "definitionProvider" definitionProviderCapability,
  optional "typeDefinitionProvider" typeDefinitionProviderCapability,
  optional "implementationProvider" implementationProviderCapability,
  optional "referencesProvider" (.oneOf [.bool, .record .referenceOptions]),
  optional "documentHighlightProvider" (.oneOf [.bool, .record .documentHighlightOptions]),
  optional "documentSymbolProvider" documentSymbolProviderCapability,
  optional "codeActionProvider" codeActionProviderCapability,
  optional "codeLensProvider" (.record .codeLensOptions),
  optional "documentLinkProvider" (.record .documentLinkOptions),
  optional "colorProvider" colorProviderCapability,
  optional "documentFormattingProvider" documentFormattingProviderCapability,
  optional "documentRangeFormattingProvider" documentRangeFormattingProviderCapability,
  optional "documentOnTypeFormattingProvider" (.record .documentOnTypeFormattingOptions),
  optional "renameProvider" renameProviderCapability,
  optional "foldingRangeProvider" foldingRangeProviderCapability,
  optional "executeCommandProvider" (.record .executeCommandOptions),
  optional "selectionRangeProvider" selectionRangeProviderCapability,
  optional "linkedEditingRangeProvider" linkedEditingRangeServerCapabilities,
  optional "callHierarchyProvider" callHierarchyServerCapability,
  optional "semanticTokensProvider" semanticTokensServerCapabilities,
  optional "monikerProvider" monikerServerCapabilities,
  optional "typeHierarchyProvider" typeHierarchyServerCapabilities,
  optional "inlineValueProvider" inlineValueServerCapabilities,
  optional "inlayHintProvider" inlayHintServerCapabilities,
  optional "diagnosticProvider" diagnosticServerCapabilities,
  optional "workspaceSymbolProvider" workspaceSymbolProviderCapability,
  optional "workspace" (.record .workspaceServerCapabilities),
  optional "experimental" .any]

/-- Information about the client. -/
def clientInfo : Record := record .clientInfo [required "name" .str, optional "version" .str]

def serverInfo : Record := record .serverInfo [required "name" .str, optional "version" .str]

/-- Parameters of the `initialize` request. -/
def initializeParams : Record := extend .initializeParams [workDoneProgressParams] [
  nullable (optional "processId" .uint32),
  optional "clientInfo" (.record .clientInfo),
  optional "locale" .str,
  optional "rootPath" .str,
  nullable (optional "rootUri" .uri),
  optional "initializationOptions" .any,
  required "capabilities" (.record .clientCapabilities),
  optional "trace" (.closedEnum .traceValue),
  optional "workspaceFolders" (.list (.record .workspaceFolder))]

/-- The result returned from an initialize request. -/
def initializeResult : Record := record .initializeResult [
  required "capabilities" (.record .serverCapabilities),
  optional "serverInfo" (.record .serverInfo)]

/-- Data of the error returned when `initialize` fails with `UnknownProtocolVersion`. -/
def initializeError : Record := record .initializeError [required "retry" .bool]

def initializedParams : Record := record .initializedParams []

end LspWire.Schema
