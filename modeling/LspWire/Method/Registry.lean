import LspWire.Codec.Decode
import LspWire.Codec.View

/-!
# Methods

The requests and notifications of the protocol with the types of their payloads. A request has params and a result, and
registration options if it can be registered; a notification has params. The draft has the requests of the protocol with
its own `initialize` and with inline completion.
-/

namespace LspWire

/-- A method and the types of its payloads. -/
structure Method where
  name : String
  params : Ty
  /-- The type of the result; none for a notification. -/
  result : Option Ty
  /-- The type of the registration options, if the method can be registered. -/
  options : Option Ty

namespace Method

open Schema

/-- A request. -/
def request (name : String) (params result : Ty) (options : Option Ty) : Method := ⟨name, params, some result, options⟩

/-- A notification. -/
def notification (name : String) (params : Ty) : Method := ⟨name, params, none, none⟩

/-- The requests of the protocol. -/
def requests : List Method := [
  request "initialize" (.record .initializeParams) (.record .initializeResult) none,
  request "shutdown" .null .null none,
  request "client/registerCapability" (.record .registrationParams) .null none,
  request "client/unregisterCapability" (.record .unregistrationParams) .null none,
  request "window/showMessageRequest" (.record .showMessageRequestParams) (.optional (.record .messageActionItem))
    none,
  request "window/showDocument" (.record .showDocumentParams) (.record .showDocumentResult) none,
  request "window/workDoneProgress/create" (.record .workDoneProgressCreateParams) .null none,
  request "workspace/workspaceFolders" .null (.optional (.list (.record .workspaceFolder))) none,
  request "workspace/configuration" (.record .configurationParams) (.list .any) none,
  request "workspace/symbol" (.record .workspaceSymbolParams) (.optional workspaceSymbolResponse)
    (some (.record .workspaceSymbolRegistrationOptions)),
  request "workspaceSymbol/resolve" (.record .workspaceSymbol) (.record .workspaceSymbol) none,
  request "workspace/executeCommand" (.record .executeCommandParams) (.optional .any)
    (some (.record .executeCommandRegistrationOptions)),
  request "workspace/applyEdit" (.record .applyWorkspaceEditParams) (.record .applyWorkspaceEditResult) none,
  request "workspace/willCreateFiles" (.record .createFilesParams) (.optional (.record .workspaceEdit))
    (some (.record .fileOperationRegistrationOptions)),
  request "workspace/willRenameFiles" (.record .renameFilesParams) (.optional (.record .workspaceEdit))
    (some (.record .fileOperationRegistrationOptions)),
  request "workspace/willDeleteFiles" (.record .deleteFilesParams) (.optional (.record .workspaceEdit))
    (some (.record .fileOperationRegistrationOptions)),
  request "workspace/codeLens/refresh" .null .null none,
  request "workspace/semanticTokens/refresh" .null .null none,
  request "workspace/inlineValue/refresh" .null .null none,
  request "workspace/inlayHint/refresh" .null .null none,
  request "workspace/diagnostic/refresh" .null .null none,
  request "textDocument/willSaveWaitUntil" (.record .willSaveTextDocumentParams)
    (.optional (.list (.record .textEdit))) (some (.record .textDocumentRegistrationOptions)),
  request "textDocument/completion" (.record .completionParams) (.optional completionResponse)
    (some (.record .completionRegistrationOptions)),
  request "completionItem/resolve" (.record .completionItem) (.record .completionItem) none,
  request "textDocument/hover" (.record .hoverParams) (.optional (.record .hover))
    (some (.record .hoverRegistrationOptions)),
  request "textDocument/signatureHelp" (.record .signatureHelpParams) (.optional (.record .signatureHelp))
    (some (.record .signatureHelpRegistrationOptions)),
  request "textDocument/declaration" (.record .declarationParams) (.optional gotoDefinitionResponse)
    (some (.record .declarationRegistrationOptions)),
  request "textDocument/definition" (.record .definitionParams) (.optional gotoDefinitionResponse)
    (some (.record .definitionRegistrationOptions)),
  request "textDocument/typeDefinition" (.record .typeDefinitionParams) (.optional gotoDefinitionResponse)
    (some (.record .typeDefinitionRegistrationOptions)),
  request "textDocument/implementation" (.record .implementationParams) (.optional gotoDefinitionResponse)
    (some (.record .implementationRegistrationOptions)),
  request "textDocument/references" (.record .referenceParams) (.optional (.list (.record .location)))
    (some (.record .referenceRegistrationOptions)),
  request "textDocument/documentHighlight" (.record .documentHighlightParams)
    (.optional (.list (.record .documentHighlight))) (some (.record .documentHighlightRegistrationOptions)),
  request "textDocument/documentSymbol" (.record .documentSymbolParams) (.optional documentSymbolResponse)
    (some (.record .documentSymbolRegistrationOptions)),
  request "textDocument/codeAction" (.record .codeActionParams) (.optional codeActionResponse)
    (some (.record .codeActionRegistrationOptions)),
  request "codeAction/resolve" (.record .codeAction) (.record .codeAction) none,
  request "textDocument/codeLens" (.record .codeLensParams) (.optional (.list (.record .codeLens)))
    (some (.record .codeLensRegistrationOptions)),
  request "codeLens/resolve" (.record .codeLens) (.record .codeLens) none,
  request "textDocument/documentLink" (.record .documentLinkParams) (.optional (.list (.record .documentLink)))
    (some (.record .documentLinkRegistrationOptions)),
  request "documentLink/resolve" (.record .documentLink) (.record .documentLink) none,
  request "textDocument/documentColor" (.record .documentColorParams) (.list (.record .colorInformation))
    (some (.record .documentColorRegistrationOptions)),
  request "textDocument/colorPresentation" (.record .colorPresentationParams) (.list (.record .colorPresentation))
    (some (.record .textDocumentRegistrationOptions)),
  request "textDocument/formatting" (.record .documentFormattingParams) (.optional (.list (.record .textEdit)))
    (some (.record .documentFormattingRegistrationOptions)),
  request "textDocument/rangeFormatting" (.record .documentRangeFormattingParams)
    (.optional (.list (.record .textEdit))) (some (.record .documentRangeFormattingRegistrationOptions)),
  request "textDocument/onTypeFormatting" (.record .documentOnTypeFormattingParams)
    (.optional (.list (.record .textEdit))) (some (.record .documentOnTypeFormattingRegistrationOptions)),
  request "textDocument/rename" (.record .renameParams) (.optional (.record .workspaceEdit))
    (some (.record .renameRegistrationOptions)),
  request "textDocument/prepareRename" (.record .prepareRenameParams) (.optional prepareRenameResponse) none,
  request "textDocument/foldingRange" (.record .foldingRangeParams) (.optional (.list (.record .foldingRange)))
    (some (.record .foldingRangeRegistrationOptions)),
  request "textDocument/selectionRange" (.record .selectionRangeParams) (.optional (.list (.record .selectionRange)))
    (some (.record .selectionRangeRegistrationOptions)),
  request "textDocument/prepareCallHierarchy" (.record .callHierarchyPrepareParams)
    (.optional (.list (.record .callHierarchyItem))) (some (.record .callHierarchyRegistrationOptions)),
  request "callHierarchy/incomingCalls" (.record .callHierarchyIncomingCallsParams)
    (.optional (.list (.record .callHierarchyIncomingCall))) none,
  request "callHierarchy/outgoingCalls" (.record .callHierarchyOutgoingCallsParams)
    (.optional (.list (.record .callHierarchyOutgoingCall))) none,
  request "textDocument/semanticTokens/full" (.record .semanticTokensParams) (.optional (.record .semanticTokens))
    (some (.record .semanticTokensRegistrationOptions)),
  request "textDocument/semanticTokens/full/delta" (.record .semanticTokensDeltaParams)
    (.optional semanticTokensFullDeltaResult) (some (.record .semanticTokensRegistrationOptions)),
  request "textDocument/semanticTokens/range" (.record .semanticTokensRangeParams)
    (.optional (.record .semanticTokens)) (some (.record .semanticTokensRegistrationOptions)),
  request "textDocument/linkedEditingRange" (.record .linkedEditingRangeParams)
    (.optional (.record .linkedEditingRanges)) (some (.record .linkedEditingRangeRegistrationOptions)),
  request "textDocument/moniker" (.record .monikerParams) (.optional (.list (.record .moniker)))
    (some (.record .monikerRegistrationOptions)),
  request "textDocument/prepareTypeHierarchy" (.record .typeHierarchyPrepareParams)
    (.optional (.list (.record .typeHierarchyItem))) (some (.record .typeHierarchyRegistrationOptions)),
  request "typeHierarchy/supertypes" (.record .typeHierarchySupertypesParams)
    (.optional (.list (.record .typeHierarchyItem))) none,
  request "typeHierarchy/subtypes" (.record .typeHierarchySubtypesParams)
    (.optional (.list (.record .typeHierarchyItem))) none,
  request "textDocument/inlineValue" (.record .inlineValueParams) (.optional (.list inlineValue))
    (some (.record .inlineValueRegistrationOptions)),
  request "textDocument/inlayHint" (.record .inlayHintParams) (.optional (.list (.record .inlayHint)))
    (some (.record .inlayHintRegistrationOptions)),
  request "inlayHint/resolve" (.record .inlayHint) (.record .inlayHint) none,
  request "textDocument/diagnostic" (.record .documentDiagnosticParams) documentDiagnosticReportResult
    (some (.record .diagnosticRegistrationOptions)),
  request "workspace/diagnostic" (.record .workspaceDiagnosticParams) (.record .workspaceDiagnosticReport) none]

/-- The requests that the draft adds or replaces. -/
def draftChanges : List Method := [
  request "initialize" (.record .draftInitializeParams) (.record .draftInitializeResult) none,
  request "textDocument/inlineCompletion" (.record .inlineCompletionParams) (.optional inlineCompletionResponse)
    (some (.record .inlineCompletionRegistrationOptions))]

/-- The requests of the draft. -/
def draftRequests : List Method :=
  (requests.filter fun m => !draftChanges.any fun d => d.name == m.name) ++ draftChanges

/-- The notifications of the protocol. -/
def notifications : List Method := [
  notification "$/cancelRequest" (.record .cancelParams),
  notification "$/setTrace" (.record .setTraceParams),
  notification "$/logTrace" (.record .logTraceParams),
  notification "$/progress" (.record .progressParams),
  notification "initialized" (.record .initializedParams),
  notification "exit" .null,
  notification "window/showMessage" (.record .showMessageParams),
  notification "window/logMessage" (.record .logMessageParams),
  notification "window/workDoneProgress/cancel" (.record .workDoneProgressCancelParams),
  notification "telemetry/event" .any,
  notification "textDocument/didOpen" (.record .didOpenTextDocumentParams),
  notification "textDocument/didChange" (.record .didChangeTextDocumentParams),
  notification "textDocument/willSave" (.record .willSaveTextDocumentParams),
  notification "textDocument/didSave" (.record .didSaveTextDocumentParams),
  notification "textDocument/didClose" (.record .didCloseTextDocumentParams),
  notification "textDocument/publishDiagnostics" (.record .publishDiagnosticsParams),
  notification "workspace/didChangeConfiguration" (.record .didChangeConfigurationParams),
  notification "workspace/didChangeWatchedFiles" (.record .didChangeWatchedFilesParams),
  notification "workspace/didChangeWorkspaceFolders" (.record .didChangeWorkspaceFoldersParams),
  notification "workspace/didCreateFiles" (.record .createFilesParams),
  notification "workspace/didRenameFiles" (.record .renameFilesParams),
  notification "workspace/didDeleteFiles" (.record .deleteFilesParams),
  notification "notebookDocument/didOpen" (.record .didOpenNotebookDocumentParams),
  notification "notebookDocument/didChange" (.record .didChangeNotebookDocumentParams),
  notification "notebookDocument/didSave" (.record .didSaveNotebookDocumentParams),
  notification "notebookDocument/didClose" (.record .didCloseNotebookDocumentParams)]

/-! ## Looking up -/

/-- The order of methods by name. -/
def sorted (ms : List Method) : List Method := ms.mergeSort fun a b => decide (a.name ≤ b.name)

/-- The payloads of a method. -/
inductive Payload where
  | params
  | result
  | registrationOptions
deriving DecidableEq, Repr

/-- Why a payload was not read. -/
inductive CallError where
  | unknownMethod (name : String)
  | notRegistrable (name : String)
  /-- The payload does not have its type. -/
  | payload (ty : Ty) (reports : List Report)

/-- The message about a method that no list has. -/
def unknownMessage (name : String) : String := "unknown method: " ++ Text.quoted name

/-- The message about a method without registration options. -/
def notRegistrableMessage (name : String) : String := name ++ " has no registration options"

/-- The method of a name. -/
def find? (ms : List Method) (name : String) : Except CallError Method :=
  match ms.find? fun m => m.name == name with
  | some m => .ok m
  | none => .error (.unknownMethod name)

/-- The type of a payload. -/
def payloadType (m : Method) : Payload → Except CallError Ty
  | .params => .ok m.params
  | .result => .ok (m.result.getD .null)
  | .registrationOptions =>
    match m.options with
    | some t => .ok t
    | none => .error (.notRegistrable m.name)

/-- Reads a payload of a method, and says at which type. -/
def decodePayload (ms : List Method) (name : String) (p : Payload) (j : Json) : Except CallError (Ty × Value) := do
  let m ← find? ms name
  let t ← m.payloadType p
  match decodeData t j with
  | .ok v => .ok (t, v)
  | .error rs => .error (.payload t rs)

end Method

end LspWire
