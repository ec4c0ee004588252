import LspWire.Records.Location
import LspWire.Records.Registration
import LspWire.Records.Markup
import LspWire.Records.Edit
import LspWire.Records.Diagnostic
import LspWire.Records.Synchronization
import LspWire.Records.Hover
import LspWire.Records.Completion
import LspWire.Records.Navigation
import LspWire.Records.Symbol
import LspWire.Records.CodeAction
import LspWire.Records.Link
import LspWire.Records.Formatting
import LspWire.Records.Structure
import LspWire.Records.Hierarchy
import LspWire.Records.SemanticTokens
import LspWire.Records.Inlay
import LspWire.Records.Workspace
import LspWire.Records.Window
import LspWire.Records.Notebook
import LspWire.Records.Handshake
import LspWire.Records.Graph
import LspWire.Records.Draft

/-!
# The library of types

The record of every class, and the types by their names.
-/

namespace LspWire.Schema

/-- The declaration of a class. -/
def recordOf : Class → Record
  | .anyRecord => ⟨.anyRecord, [], [], false⟩
  | .position => position
  | .range => range
  | .location => location
  | .locationLink => locationLink
  | .textDocumentIdentifier => textDocumentIdentifier
  | .textDocumentItem => textDocumentItem
  | .versionedTextDocumentIdentifier => versionedTextDocumentIdentifier
  | .optionalVersionedTextDocumentIdentifier => optionalVersionedTextDocumentIdentifier
  | .textDocumentPositionParams => textDocumentPositionParams
  | .documentFilter => documentFilter
  | .workspaceFolder => workspaceFolder
  | .relativePattern => relativePattern
  | .workDoneProgressParams => workDoneProgressParams
  | .partialResultParams => partialResultParams
  | .workDoneProgressOptions => workDoneProgressOptions
  | .staticRegistrationOptions => staticRegistrationOptions
  | .textDocumentRegistrationOptions => textDocumentRegistrationOptions
  | .staticTextDocumentRegistrationOptions => staticTextDocumentRegistrationOptions
  | .dynamicRegistrationClientCapabilities => dynamicRegistrationClientCapabilities
  | .gotoCapability => gotoCapability
  | .tagSupport => tagSupport
  | .tagSupportOfCompletionItemTag => tagSupportOfCompletionItemTag
  | .tagSupportOfSymbolTag => tagSupportOfSymbolTag
  | .tagSupportOfDiagnosticTag => tagSupportOfDiagnosticTag
  | .symbolKindCapability => symbolKindCapability
  | .resolveSupport => resolveSupport
  | .cancelParams => cancelParams
  | .registration => registration
  | .registrationParams => registrationParams
  | .unregistration => unregistration
  | .unregistrationParams => unregistrationParams
  | .markupContent => markupContent
  | .languageString => languageString
  | .command => command
  | .textEdit => textEdit
  | .annotatedTextEdit => annotatedTextEdit
  | .textDocumentEdit => textDocumentEdit
  | .changeAnnotationEntry => changeAnnotationEntry
  | .createFileOptions => createFileOptions
  | .createFile => createFile
  | .renameFileOptions => renameFileOptions
  | .renameFile => renameFile
  | .deleteFileOptions => deleteFileOptions
  | .deleteFile => deleteFile
  | .workspaceEdit => workspaceEdit
  | .changeAnnotationWorkspaceEditClientCapabilities => changeAnnotationWorkspaceEditClientCapabilities
  | .workspaceEditClientCapabilities => workspaceEditClientCapabilities
  | .applyWorkspaceEditParams => applyWorkspaceEditParams
  | .applyWorkspaceEditResult => applyWorkspaceEditResult
  | .codeDescription => codeDescription
  | .diagnosticRelatedInformation => diagnosticRelatedInformation
  | .diagnostic => diagnostic
  | .publishDiagnosticsClientCapabilities => publishDiagnosticsClientCapabilities
  | .publishDiagnosticsParams => publishDiagnosticsParams
  | .diagnosticClientCapabilities => diagnosticClientCapabilities
  | .diagnosticOptions => diagnosticOptions
  | .diagnosticRegistrationOptions => diagnosticRegistrationOptions
  | .documentDiagnosticParams => documentDiagnosticParams
  | .fullDocumentDiagnosticReport => fullDocumentDiagnosticReport
  | .unchangedDocumentDiagnosticReport => unchangedDocumentDiagnosticReport
  | .relatedFullDocumentDiagnosticReport => relatedFullDocumentDiagnosticReport
  | .relatedUnchangedDocumentDiagnosticReport => relatedUnchangedDocumentDiagnosticReport
  | .documentDiagnosticReportPartialResult => documentDiagnosticReportPartialResult
  | .diagnosticServerCancellationData => diagnosticServerCancellationData
  | .previousResultId => previousResultId
  | .workspaceDiagnosticParams => workspaceDiagnosticParams
  | .workspaceFullDocumentDiagnosticReport => workspaceFullDocumentDiagnosticReport
  | .workspaceUnchangedDocumentDiagnosticReport => workspaceUnchangedDocumentDiagnosticReport
  | .workspaceDiagnosticReport => workspaceDiagnosticReport
  | .workspaceDiagnosticReportPartialResult => workspaceDiagnosticReportPartialResult
  | .saveOptions => saveOptions
  | .textDocumentSyncOptions => textDocumentSyncOptions
  | .textDocumentSyncClientCapabilities => textDocumentSyncClientCapabilities
  | .didOpenTextDocumentParams => didOpenTextDocumentParams
  | .textDocumentChangeRegistrationOptions => textDocumentChangeRegistrationOptions
  | .textDocumentContentChangeEvent => textDocumentContentChangeEvent
  | .didChangeTextDocumentParams => didChangeTextDocumentParams
  | .willSaveTextDocumentParams => willSaveTextDocumentParams
  | .textDocumentSaveRegistrationOptions => textDocumentSaveRegistrationOptions
  | .didSaveTextDocumentParams => didSaveTextDocumentParams
  | .didCloseTextDocumentParams => didCloseTextDocumentParams
  | .hoverClientCapabilities => hoverClientCapabilities
  | .hoverOptions => hoverOptions
  | .hoverRegistrationOptions => hoverRegistrationOptions
  | .hoverParams => hoverParams
  | .hover => hover
  | .parameterInformationSettings => parameterInformationSettings
  | .signatureInformationSettings => signatureInformationSettings
  | .signatureHelpClientCapabilities => signatureHelpClientCapabilities
  | .signatureHelpOptions => signatureHelpOptions
  | .signatureHelpRegistrationOptions => signatureHelpRegistrationOptions
  | .parameterInformation => parameterInformation
  | .signatureInformation => signatureInformation
  | .signatureHelp => signatureHelp
  | .signatureHelpContext => signatureHelpContext
  | .signatureHelpParams => signatureHelpParams
  | .insertTextModeSupport => insertTextModeSupport
  | .completionItemCapability => completionItemCapability
  | .completionItemKindCapability => completionItemKindCapability
  | .completionListCapability => completionListCapability
  | .completionClientCapabilities => completionClientCapabilities
  | .completionOptionsCompletionItem => completionOptionsCompletionItem
  | .completionOptions => completionOptions
  | .completionRegistrationOptions => completionRegistrationOptions
  | .completionContext => completionContext
  | .completionParams => completionParams
  | .insertReplaceEdit => insertReplaceEdit
  | .completionItemLabelDetails => completionItemLabelDetails
  | .completionItem => completionItem
  | .insertReplaceRange => insertReplaceRange
  | .completionListItemDefaults => completionListItemDefaults
  | .completionList => completionList
  | .declarationOptions => declarationOptions
  | .declarationRegistrationOptions => declarationRegistrationOptions
  | .declarationParams => declarationParams
  | .definitionOptions => definitionOptions
  | .definitionRegistrationOptions => definitionRegistrationOptions
  | .definitionParams => definitionParams
  | .typeDefinitionOptions => typeDefinitionOptions
  | .typeDefinitionRegistrationOptions => typeDefinitionRegistrationOptions
  | .typeDefinitionParams => typeDefinitionParams
  | .implementationOptions => implementationOptions
  | .implementationRegistrationOptions => implementationRegistrationOptions
  | .implementationParams => implementationParams
  | .referenceOptions => referenceOptions
  | .referenceRegistrationOptions => referenceRegistrationOptions
  | .referenceContext => referenceContext
  | .referenceParams => referenceParams
  | .documentHighlightOptions => documentHighlightOptions
  | .documentHighlightRegistrationOptions => documentHighlightRegistrationOptions
  | .documentHighlightParams => documentHighlightParams
  | .documentHighlight => documentHighlight
  | .documentSymbolClientCapabilities => documentSymbolClientCapabilities
  | .documentSymbolOptions => documentSymbolOptions
  | .documentSymbolRegistrationOptions => documentSymbolRegistrationOptions
  | .documentSymbolParams => documentSymbolParams
  | .documentSymbol => documentSymbol
  | .symbolInformation => symbolInformation
  | .workspaceSymbolClientCapabilities => workspaceSymbolClientCapabilities
  | .workspaceSymbolOptions => workspaceSymbolOptions
  | .workspaceSymbolRegistrationOptions => workspaceSymbolRegistrationOptions
  | .workspaceSymbolParams => workspaceSymbolParams
  | .workspaceLocation => workspaceLocation
  | .workspaceSymbol => workspaceSymbol
  | .codeActionKindLiteralSupport => codeActionKindLiteralSupport
  | .codeActionLiteralSupport => codeActionLiteralSupport
  | .codeActionClientCapabilities => codeActionClientCapabilities
  | .codeActionOptions => codeActionOptions
  | .codeActionRegistrationOptions => codeActionRegistrationOptions
  | .codeActionContext => codeActionContext
  | .codeActionParams => codeActionParams
  | .codeActionDisabled => codeActionDisabled
  | .codeAction => codeAction
  | .codeLensOptions => codeLensOptions
  | .codeLensRegistrationOptions => codeLensRegistrationOptions
  | .codeLensParams => codeLensParams
  | .codeLens => codeLens
  | .documentLinkClientCapabilities => documentLinkClientCapabilities
  | .documentLinkOptions => documentLinkOptions
  | .documentLinkRegistrationOptions => documentLinkRegistrationOptions
  | .documentLinkParams => documentLinkParams
  | .documentLink => documentLink
  | .documentColorOptions => documentColorOptions
  | .documentColorRegistrationOptions => documentColorRegistrationOptions
  | .documentColorParams => documentColorParams
  | .color => color
  | .colorInformation => colorInformation
  | .colorPresentationParams => colorPresentationParams
  | .colorPresentation => colorPresentation
  | .formattingOptions => formattingOptions
  | .documentFormattingOptions => documentFormattingOptions
  | .documentFormattingRegistrationOptions => documentFormattingRegistrationOptions
  | .documentFormattingParams => documentFormattingParams
  | .documentRangeFormattingOptions => documentRangeFormattingOptions
  | .documentRangeFormattingRegistrationOptions => documentRangeFormattingRegistrationOptions
  | .documentRangeFormattingParams => documentRangeFormattingParams
  | .documentOnTypeFormattingOptions => documentOnTypeFormattingOptions
  | .documentOnTypeFormattingRegistrationOptions => documentOnTypeFormattingRegistrationOptions
  | .documentOnTypeFormattingParams => documentOnTypeFormattingParams
  | .renameClientCapabilities => renameClientCapabilities
  | .renameOptions => renameOptions
  | .renameRegistrationOptions => renameRegistrationOptions
  | .renameParams => renameParams
  | .prepareRenameParams => prepareRenameParams
  | .prepareRenamePlaceholder => prepareRenamePlaceholder
  | .prepareRenameDefaultBehavior => prepareRenameDefaultBehavior
  | .foldingRangeKindCapability => foldingRangeKindCapability
  | .foldingRangeCapability => foldingRangeCapability
  | .foldingRangeClientCapabilities => foldingRangeClientCapabilities
  | .foldingRangeOptions => foldingRangeOptions
  | .foldingRangeRegistrationOptions => foldingRangeRegistrationOptions
  | .foldingRangeParams => foldingRangeParams
  | .foldingRange => foldingRange
  | .selectionRangeOptions => selectionRangeOptions
  | .selectionRangeRegistrationOptions => selectionRangeRegistrationOptions
  | .selectionRangeParams => selectionRangeParams
  | .selectionRange => selectionRange
  | .linkedEditingRangeOptions => linkedEditingRangeOptions
  | .linkedEditingRangeRegistrationOptions => linkedEditingRangeRegistrationOptions
  | .linkedEditingRangeParams => linkedEditingRangeParams
  | .linkedEditingRanges => linkedEditingRanges
  | .callHierarchyOptions => callHierarchyOptions
  | .callHierarchyRegistrationOptions => callHierarchyRegistrationOptions
  | .callHierarchyPrepareParams => callHierarchyPrepareParams
  | .callHierarchyItem => callHierarchyItem
  | .callHierarchyIncomingCallsParams => callHierarchyIncomingCallsParams
  | .callHierarchyIncomingCall => callHierarchyIncomingCall
  | .callHierarchyOutgoingCallsParams => callHierarchyOutgoingCallsParams
  | .callHierarchyOutgoingCall => callHierarchyOutgoingCall
  | .typeHierarchyOptions => typeHierarchyOptions
  | .typeHierarchyRegistrationOptions => typeHierarchyRegistrationOptions
  | .typeHierarchyPrepareParams => typeHierarchyPrepareParams
  | .typeHierarchyItem => typeHierarchyItem
  | .typeHierarchySupertypesParams => typeHierarchySupertypesParams
  | .typeHierarchySubtypesParams => typeHierarchySubtypesParams
  | .monikerOptions => monikerOptions
  | .monikerRegistrationOptions => monikerRegistrationOptions
  | .monikerParams => monikerParams
  | .moniker => moniker
  | .semanticTokensLegend => semanticTokensLegend
  | .semanticTokensClientCapabilitiesRequestsFull => semanticTokensClientCapabilitiesRequestsFull
  | .semanticTokensClientCapabilitiesRequests => semanticTokensClientCapabilitiesRequests
  | .semanticTokensClientCapabilities => semanticTokensClientCapabilities
  | .semanticTokensFullOptions => semanticTokensFullOptions
  | .semanticTokensOptions => semanticTokensOptions
  | .semanticTokensRegistrationOptions => semanticTokensRegistrationOptions
  | .semanticTokensParams => semanticTokensParams
  | .semanticTokensDeltaParams => semanticTokensDeltaParams
  | .semanticTokensRangeParams => semanticTokensRangeParams
  | .semanticTokens => semanticTokens
  | .semanticTokensPartialResult => semanticTokensPartialResult
  | .semanticTokensEdit => semanticTokensEdit
  | .semanticTokensDelta => semanticTokensDelta
  | .semanticTokensDeltaPartialResult => semanticTokensDeltaPartialResult
  | .inlineValueOptions => inlineValueOptions
  | .inlineValueRegistrationOptions => inlineValueRegistrationOptions
  | .inlineValueContext => inlineValueContext
  | .inlineValueParams => inlineValueParams
  | .inlineValueText => inlineValueText
  | .inlineValueVariableLookup => inlineValueVariableLookup
  | .inlineValueEvaluatableExpression => inlineValueEvaluatableExpression
  | .inlayHintClientCapabilities => inlayHintClientCapabilities
  | .inlayHintOptions => inlayHintOptions
  | .inlayHintRegistrationOptions => inlayHintRegistrationOptions
  | .inlayHintParams => inlayHintParams
  | .inlayHintLabelPart => inlayHintLabelPart
  | .inlayHint => inlayHint
  | .workspaceFoldersServerCapabilities => workspaceFoldersServerCapabilities
  | .workspaceFoldersChangeEvent => workspaceFoldersChangeEvent
  | .didChangeWorkspaceFoldersParams => didChangeWorkspaceFoldersParams
  | .configurationItem => configurationItem
  | .configurationParams => configurationParams
  | .didChangeConfigurationParams => didChangeConfigurationParams
  | .fileEvent => fileEvent
  | .didChangeWatchedFilesParams => didChangeWatchedFilesParams
  | .fileSystemWatcher => fileSystemWatcher
  | .didChangeWatchedFilesRegistrationOptions => didChangeWatchedFilesRegistrationOptions
  | .didChangeWatchedFilesClientCapabilities => didChangeWatchedFilesClientCapabilities
  | .executeCommandClientCapabilities => executeCommandClientCapabilities
  | .executeCommandOptions => executeCommandOptions
  | .executeCommandRegistrationOptions => executeCommandRegistrationOptions
  | .executeCommandParams => executeCommandParams
  | .fileOperationPatternOptions => fileOperationPatternOptions
  | .fileOperationPattern => fileOperationPattern
  | .fileOperationFilter => fileOperationFilter
  | .fileOperationRegistrationOptions => fileOperationRegistrationOptions
  | .workspaceFileOperationsServerCapabilities => workspaceFileOperationsServerCapabilities
  | .workspaceFileOperationsClientCapabilities => workspaceFileOperationsClientCapabilities
  | .fileCreate => fileCreate
  | .createFilesParams => createFilesParams
  | .fileRename => fileRename
  | .renameFilesParams => renameFilesParams
  | .fileDelete => fileDelete
  | .deleteFilesParams => deleteFilesParams
  | .refreshClientCapabilities => refreshClientCapabilities
  | .messageActionItem => messageActionItem
  | .showMessageParams => showMessageParams
  | .showMessageRequestParams => showMessageRequestParams
  | .messageActionItemCapabilities => messageActionItemCapabilities
  | .showMessageRequestClientCapabilities => showMessageRequestClientCapabilities
  | .logMessageParams => logMessageParams
  | .showDocumentClientCapabilities => showDocumentClientCapabilities
  | .showDocumentParams => showDocumentParams
  | .showDocumentResult => showDocumentResult
  | .windowClientCapabilities => windowClientCapabilities
  | .workDoneProgressCreateParams => workDoneProgressCreateParams
  | .workDoneProgressCancelParams => workDoneProgressCancelParams
  | .workDoneProgressBegin => workDoneProgressBegin
  | .workDoneProgressReport => workDoneProgressReport
  | .workDoneProgressEnd => workDoneProgressEnd
  | .progressParams => progressParams
  | .setTraceParams => setTraceParams
  | .logTraceParams => logTraceParams
  | .executionSummary => executionSummary
  | .notebookCell => notebookCell
  | .notebookDocument => notebookDocument
  | .notebookDocumentFilter => notebookDocumentFilter
  | .notebookCellSelector => notebookCellSelector
  | .notebookSelector => notebookSelector
  | .notebookDocumentSyncOptions => notebookDocumentSyncOptions
  | .notebookDocumentSyncRegistrationOptions => notebookDocumentSyncRegistrationOptions
  | .notebookDocumentSyncClientCapabilities => notebookDocumentSyncClientCapabilities
  | .notebookDocumentClientCapabilities => notebookDocumentClientCapabilities
  | .didOpenNotebookDocumentParams => didOpenNotebookDocumentParams
  | .versionedNotebookDocumentIdentifier => versionedNotebookDocumentIdentifier
  | .notebookCellArrayChange => notebookCellArrayChange
  | .notebookDocumentCellChangeStructure => notebookDocumentCellChangeStructure
  | .notebookDocumentCellContentChanges => notebookDocumentCellContentChanges
  | .notebookDocumentCellChanges => notebookDocumentCellChanges
  | .notebookDocumentChangeEvent => notebookDocumentChangeEvent
  | .didChangeNotebookDocumentParams => didChangeNotebookDocumentParams
  | .notebookDocumentIdentifier => notebookDocumentIdentifier
  | .didSaveNotebookDocumentParams => didSaveNotebookDocumentParams
  | .didCloseNotebookDocumentParams => didCloseNotebookDocumentParams
  | .workspaceClientCapabilities => workspaceClientCapabilities
  | .textDocumentClientCapabilities => textDocumentClientCapabilities
  | .staleRequestSupportClientCapabilities => staleRequestSupportClientCapabilities
  | .regularExpressionsClientCapabilities => regularExpressionsClientCapabilities
  | .markdownClientCapabilities => markdownClientCapabilities
  | .generalClientCapabilities => generalClientCapabilities
  | .clientCapabilities => clientCapabilities
  | .workspaceServerCapabilities => workspaceServerCapabilities
  | .serverCapabilities => serverCapabilities
  | .clientInfo => clientInfo
  | .serverInfo => serverInfo
  | .initializeParams => initializeParams
  | .initializeResult => initializeResult
  | .initializeError => initializeError
  | .initializedParams => initializedParams
  | .toolInfo => toolInfo
  | .repository => repository
  | .definitionTag => definitionTag
  | .declarationTag => declarationTag
  | .referenceTag => referenceTag
  | .unknownTag => unknownTag
  | .rangeBasedDocumentSymbol => rangeBasedDocumentSymbol
  | .vertexBase => vertexBase
  | .metaData => metaData
  | .project => project
  | .document => document
  | .rangeVertex => rangeVertex
  | .resultSet => resultSet
  | .monikerVertex => monikerVertex
  | .packageInformation => packageInformation
  | .event => event
  | .definitionResult => definitionResult
  | .declarationResult => declarationResult
  | .typeDefinitionResult => typeDefinitionResult
  | .referenceResult => referenceResult
  | .implementationResult => implementationResult
  | .foldingRangeResult => foldingRangeResult
  | .hoverResult => hoverResult
  | .documentSymbolResult => documentSymbolResult
  | .documentLinkResult => documentLinkResult
  | .diagnosticResult => diagnosticResult
  | .edgeBase => edgeBase
  | .edgeData => edgeData
  | .edgeDataMultiIn => edgeDataMultiIn
  | .containsEdge => containsEdge
  | .itemEdge => itemEdge
  | .monikerEdge => monikerEdge
  | .nextMonikerEdge => nextMonikerEdge
  | .nextEdge => nextEdge
  | .packageInformationEdge => packageInformationEdge
  | .definitionEdge => definitionEdge
  | .declarationEdge => declarationEdge
  | .hoverEdge => hoverEdge
  | .referencesEdge => referencesEdge
  | .implementationEdge => implementationEdge
  | .typeDefinitionEdge => typeDefinitionEdge
  | .foldingRangeEdge => foldingRangeEdge
  | .documentLinkEdge => documentLinkEdge
  | .documentSymbolEdge => documentSymbolEdge
  | .diagnosticEdge => diagnosticEdge
  | .inlineCompletionClientCapabilities => inlineCompletionClientCapabilities
  | .inlineCompletionOptions => inlineCompletionOptions
  | .inlineCompletionRegistrationOptions => inlineCompletionRegistrationOptions
  | .selectedCompletionInfo => selectedCompletionInfo
  | .inlineCompletionContext => inlineCompletionContext
  | .inlineCompletionParams => inlineCompletionParams
  | .stringValue => stringValue
  | .inlineCompletionItem => inlineCompletionItem
  | .inlineCompletionList => inlineCompletionList
  | .draftTextDocumentClientCapabilities => draftTextDocumentClientCapabilities
  | .draftClientCapabilities => draftClientCapabilities
  | .draftInitializeParams => draftInitializeParams
  | .draftServerCapabilities => draftServerCapabilities
  | .draftInitializeResult => draftInitializeResult

/-- The types that have a name of their own, besides the classes and the enumerations. -/
def namedTypes : List (String × Ty) := [
  ("Int32", .int32),
  ("UInt32", .uint32),
  ("Percentage", .percentage),
  ("LSPAny", .any),
  ("LSPObject", .object),
  ("LSPArray", .list .any),
  ("JSONValue", .any),
  ("NumberOrString", .numberOrString),
  ("ProgressToken", .numberOrString),
  ("Id", .numberOrString),
  ("ChangeAnnotationIdentifier", .str),
  ("Uri", .uri),
  ("WatchKind", .watchKind),
  ("TelemetryEventParams", .any),
  ("GotoDeclarationResponse", gotoDefinitionResponse),
  ("GotoTypeDefinitionResponse", gotoDefinitionResponse),
  ("GotoImplementationResponse", gotoDefinitionResponse),
  ("SemanticTokensWorkspaceClientCapabilities", .record .refreshClientCapabilities),
  ("CodeLensWorkspaceClientCapabilities", .record .refreshClientCapabilities),
  ("InlineValueWorkspaceClientCapabilities", .record .refreshClientCapabilities),
  ("InlayHintWorkspaceClientCapabilities", .record .refreshClientCapabilities),
  ("DiagnosticWorkspaceClientCapabilities", .record .refreshClientCapabilities),
  ("DocumentSelector", documentSelector),
  ("ResourceOp", resourceOp),
  ("DocumentChangeOperation", documentChangeOperation),
  ("DocumentChanges", documentChanges),
  ("MarkedString", markedString),
  ("Documentation", documentation),
  ("GlobPattern", globPattern),
  ("TextDocumentSyncSaveOptions", textDocumentSyncSaveOptions),
  ("TextDocumentSyncCapability", textDocumentSyncCapability),
  ("HoverProviderCapability", hoverProviderCapability),
  ("HoverContents", hoverContents),
  ("CompletionTextEdit", completionTextEdit),
  ("CompletionResponse", completionResponse),
  ("ParameterLabel", parameterLabel),
  ("DeclarationProviderCapability", declarationProviderCapability),
  ("DefinitionProviderCapability", definitionProviderCapability),
  ("TypeDefinitionProviderCapability", typeDefinitionProviderCapability),
  ("ImplementationProviderCapability", implementationProviderCapability),
  ("GotoDefinitionResponse", gotoDefinitionResponse),
  ("DocumentSymbolProviderCapability", documentSymbolProviderCapability),
  ("DocumentSymbolResponse", documentSymbolResponse),
  ("CodeActionProviderCapability", codeActionProviderCapability),
  ("CodeActionOrCommand", codeActionOrCommand),
  ("CodeActionResponse", codeActionResponse),
  ("ColorProviderCapability", colorProviderCapability),
  ("DocumentFormattingProviderCapability", documentFormattingProviderCapability),
  ("DocumentRangeFormattingProviderCapability", documentRangeFormattingProviderCapability),
  ("RenameProviderCapability", renameProviderCapability),
  ("PrepareRenameResponse", prepareRenameResponse),
  ("FoldingRangeProviderCapability", foldingRangeProviderCapability),
  ("SelectionRangeProviderCapability", selectionRangeProviderCapability),
  ("CallHierarchyServerCapability", callHierarchyServerCapability),
  ("SemanticTokensServerCapabilities", semanticTokensServerCapabilities),
  ("SemanticTokensFullDeltaResult", semanticTokensFullDeltaResult),
  ("LinkedEditingRangeServerCapabilities", linkedEditingRangeServerCapabilities),
  ("MonikerServerCapabilities", monikerServerCapabilities),
  ("TypeHierarchyServerCapabilities", typeHierarchyServerCapabilities),
  ("InlineValueServerCapabilities", inlineValueServerCapabilities),
  ("InlineValue", inlineValue),
  ("InlayHintServerCapabilities", inlayHintServerCapabilities),
  ("InlayHintTooltip", inlayHintTooltip),
  ("InlayHintLabel", inlayHintLabel),
  ("DiagnosticServerCapabilities", diagnosticServerCapabilities),
  ("DocumentDiagnosticReportVariant", documentDiagnosticReportVariant),
  ("DocumentDiagnosticReport", documentDiagnosticReport),
  ("DocumentDiagnosticReportResult", documentDiagnosticReportResult),
  ("WorkspaceDocumentDiagnosticReport", workspaceDocumentDiagnosticReport),
  ("WorkspaceSymbolProviderCapability", workspaceSymbolProviderCapability),
  ("WorkspaceSymbolResponse", workspaceSymbolResponse),
  ("WorkDoneProgress", workDoneProgress),
  ("ProgressParamsValue", progressParamsValue),
  ("NotebookDocumentSyncServerCapabilities", notebookDocumentSyncServerCapabilities),
  ("RangeTag", rangeTag),
  ("DocumentSymbolOrRangeBasedVec", symbolsOrRanges),
  ("Vertex", vertex),
  ("Edge", edge),
  ("Entry", entry),
  ("InlineCompletionResponse", inlineCompletionResponse)]

/-- The class of a name; of the two versions of a handshake record the draft's if `draft` asks for it. -/
def classNamed? (draft : Bool) (name : String) : Option Class :=
  match Class.all.filter fun c => c.name == name with
  | [] => none
  | c :: cs => if draft then (c :: cs).getLast? else some c

/-- The type of a name. -/
def typeNamed? (draft : Bool) (name : String) : Option Ty :=
  match classNamed? draft name with
  | some c => some (.record c)
  | none =>
    ((namedTypes.find? fun m => m.1 == name).map (·.2)).or <|
    ((IntEnum.all.find? fun e => e.constants.name == name).map Ty.intEnum).or <|
    ((OpenEnum.all.find? fun e => e.constants.name == name).map Ty.openEnum).or <|
    (ClosedEnum.all.find? fun e => e.constants.name == name).map Ty.closedEnum

end LspWire.Schema
