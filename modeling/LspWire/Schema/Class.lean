/-!
# The classes of records

Every record of the protocol and of the index format has a class, by which values and types name it. Five records of the
handshake exist twice: as released and with the items of the draft; both have the same name.
-/

namespace LspWire

/-- The class of a record. -/
inductive Class where
  /-- A record without fields of its own, which every object is. -/
  | anyRecord
  | position | range | location | locationLink | textDocumentIdentifier | textDocumentItem
  | versionedTextDocumentIdentifier | optionalVersionedTextDocumentIdentifier | textDocumentPositionParams
  | documentFilter | workspaceFolder | relativePattern
  | workDoneProgressParams | partialResultParams | workDoneProgressOptions | staticRegistrationOptions
  | textDocumentRegistrationOptions | staticTextDocumentRegistrationOptions | dynamicRegistrationClientCapabilities
  | gotoCapability | tagSupport | tagSupportOfCompletionItemTag | tagSupportOfSymbolTag | tagSupportOfDiagnosticTag
  | symbolKindCapability | resolveSupport | cancelParams | registration | registrationParams | unregistration
  | unregistrationParams
  | markupContent | languageString | command
  | textEdit | annotatedTextEdit | textDocumentEdit | changeAnnotationEntry | createFileOptions | createFile
  | renameFileOptions | renameFile | deleteFileOptions | deleteFile | workspaceEdit
  | changeAnnotationWorkspaceEditClientCapabilities | workspaceEditClientCapabilities | applyWorkspaceEditParams
  | applyWorkspaceEditResult
  | codeDescription | diagnosticRelatedInformation | diagnostic | publishDiagnosticsClientCapabilities
  | publishDiagnosticsParams | diagnosticClientCapabilities | diagnosticOptions | diagnosticRegistrationOptions
  | documentDiagnosticParams | fullDocumentDiagnosticReport | unchangedDocumentDiagnosticReport
  | relatedFullDocumentDiagnosticReport | relatedUnchangedDocumentDiagnosticReport
  | documentDiagnosticReportPartialResult | diagnosticServerCancellationData | previousResultId
  | workspaceDiagnosticParams | workspaceFullDocumentDiagnosticReport | workspaceUnchangedDocumentDiagnosticReport
  | workspaceDiagnosticReport | workspaceDiagnosticReportPartialResult
  | saveOptions | textDocumentSyncOptions | textDocumentSyncClientCapabilities | didOpenTextDocumentParams
  | textDocumentChangeRegistrationOptions | textDocumentContentChangeEvent | didChangeTextDocumentParams
  | willSaveTextDocumentParams | textDocumentSaveRegistrationOptions | didSaveTextDocumentParams
  | didCloseTextDocumentParams
  | hoverClientCapabilities | hoverOptions | hoverRegistrationOptions | hoverParams | hover
  | parameterInformationSettings | signatureInformationSettings | signatureHelpClientCapabilities
  | signatureHelpOptions | signatureHelpRegistrationOptions | parameterInformation | signatureInformation
  | signatureHelp | signatureHelpContext | signatureHelpParams
  | insertTextModeSupport | completionItemCapability | completionItemKindCapability | completionListCapability
  | completionClientCapabilities | completionOptionsCompletionItem | completionOptions
  | completionRegistrationOptions | completionContext | completionParams | insertReplaceEdit
  | completionItemLabelDetails | completionItem | insertReplaceRange | completionListItemDefaults | completionList
  | declarationOptions | declarationRegistrationOptions | declarationParams | definitionOptions
  | definitionRegistrationOptions | definitionParams | typeDefinitionOptions | typeDefinitionRegistrationOptions
  | typeDefinitionParams | implementationOptions | implementationRegistrationOptions | implementationParams
  | referenceOptions | referenceRegistrationOptions | referenceContext | referenceParams | documentHighlightOptions
  | documentHighlightRegistrationOptions | documentHighlightParams | documentHighlight
  | documentSymbolClientCapabilities | documentSymbolOptions | documentSymbolRegistrationOptions
  | documentSymbolParams | documentSymbol | symbolInformation | workspaceSymbolClientCapabilities
  | workspaceSymbolOptions | workspaceSymbolRegistrationOptions | workspaceSymbolParams | workspaceLocation
  | workspaceSymbol
  | codeActionKindLiteralSupport | codeActionLiteralSupport | codeActionClientCapabilities | codeActionOptions
  | codeActionRegistrationOptions | codeActionContext | codeActionParams | codeActionDisabled | codeAction
  | codeLensOptions | codeLensRegistrationOptions | codeLensParams | codeLens
  | documentLinkClientCapabilities | documentLinkOptions | documentLinkRegistrationOptions | documentLinkParams
  | documentLink | documentColorOptions | documentColorRegistrationOptions | documentColorParams | color
  | colorInformation | colorPresentationParams | colorPresentation
  | formattingOptions | documentFormattingOptions | documentFormattingRegistrationOptions | documentFormattingParams
  | documentRangeFormattingOptions | documentRangeFormattingRegistrationOptions | documentRangeFormattingParams
  | documentOnTypeFormattingOptions | documentOnTypeFormattingRegistrationOptions | documentOnTypeFormattingParams
  | renameClientCapabilities | renameOptions | renameRegistrationOptions | renameParams | prepareRenameParams
  | prepareRenamePlaceholder | prepareRenameDefaultBehavior
  | foldingRangeKindCapability | foldingRangeCapability | foldingRangeClientCapabilities | foldingRangeOptions
  | foldingRangeRegistrationOptions | foldingRangeParams | foldingRange | selectionRangeOptions
  | selectionRangeRegistrationOptions | selectionRangeParams | selectionRange | linkedEditingRangeOptions
  | linkedEditingRangeRegistrationOptions | linkedEditingRangeParams | linkedEditingRanges
  | callHierarchyOptions | callHierarchyRegistrationOptions | callHierarchyPrepareParams | callHierarchyItem
  | callHierarchyIncomingCallsParams | callHierarchyIncomingCall | callHierarchyOutgoingCallsParams
  | callHierarchyOutgoingCall | typeHierarchyOptions | typeHierarchyRegistrationOptions | typeHierarchyPrepareParams
  | typeHierarchyItem | typeHierarchySupertypesParams | typeHierarchySubtypesParams | monikerOptions
  | monikerRegistrationOptions | monikerParams | moniker
  | semanticTokensLegend | semanticTokensClientCapabilitiesRequestsFull | semanticTokensClientCapabilitiesRequests
  | semanticTokensClientCapabilities | semanticTokensFullOptions | semanticTokensOptions
  | semanticTokensRegistrationOptions | semanticTokensParams | semanticTokensDeltaParams | semanticTokensRangeParams
  | semanticTokens | semanticTokensPartialResult | semanticTokensEdit | semanticTokensDelta
  | semanticTokensDeltaPartialResult
  | inlineValueOptions | inlineValueRegistrationOptions | inlineValueContext | inlineValueParams | inlineValueText
  | inlineValueVariableLookup | inlineValueEvaluatableExpression | inlayHintClientCapabilities | inlayHintOptions
  | inlayHintRegistrationOptions | inlayHintParams | inlayHintLabelPart | inlayHint
  | workspaceFoldersServerCapabilities | workspaceFoldersChangeEvent | didChangeWorkspaceFoldersParams
  | configurationItem | configurationParams | didChangeConfigurationParams | fileEvent | didChangeWatchedFilesParams
  | fileSystemWatcher | didChangeWatchedFilesRegistrationOptions | didChangeWatchedFilesClientCapabilities
  | executeCommandClientCapabilities | executeCommandOptions | executeCommandRegistrationOptions
  | executeCommandParams | fileOperationPatternOptions | fileOperationPattern | fileOperationFilter
  | fileOperationRegistrationOptions | workspaceFileOperationsServerCapabilities
  | workspaceFileOperationsClientCapabilities | fileCreate | createFilesParams | fileRename | renameFilesParams
  | fileDelete | deleteFilesParams | refreshClientCapabilities
  | messageActionItem | showMessageParams | showMessageRequestParams | messageActionItemCapabilities
  | showMessageRequestClientCapabilities | logMessageParams | showDocumentClientCapabilities | showDocumentParams
  | showDocumentResult | windowClientCapabilities | workDoneProgressCreateParams | workDoneProgressCancelParams
  | workDoneProgressBegin | workDoneProgressReport | workDoneProgressEnd | progressParams | setTraceParams
  | logTraceParams
  | executionSummary | notebookCell | notebookDocument | notebookDocumentFilter | notebookCellSelector
  | notebookSelector | notebookDocumentSyncOptions | notebookDocumentSyncRegistrationOptions
  | notebookDocumentSyncClientCapabilities | notebookDocumentClientCapabilities | didOpenNotebookDocumentParams
  | versionedNotebookDocumentIdentifier | notebookCellArrayChange | notebookDocumentCellChangeStructure
  | notebookDocumentCellContentChanges | notebookDocumentCellChanges | notebookDocumentChangeEvent
  | didChangeNotebookDocumentParams | notebookDocumentIdentifier | didSaveNotebookDocumentParams
  | didCloseNotebookDocumentParams
  | workspaceClientCapabilities | textDocumentClientCapabilities | staleRequestSupportClientCapabilities
  | regularExpressionsClientCapabilities | markdownClientCapabilities | generalClientCapabilities
  | clientCapabilities | workspaceServerCapabilities | serverCapabilities | clientInfo | serverInfo
  | initializeParams | initializeResult | initializeError | initializedParams
  | toolInfo | repository | definitionTag | declarationTag | referenceTag | unknownTag | rangeBasedDocumentSymbol
  | vertexBase | metaData | project | document | rangeVertex | resultSet | monikerVertex | packageInformation | event
  | definitionResult | declarationResult | typeDefinitionResult | referenceResult | implementationResult
  | foldingRangeResult | hoverResult | documentSymbolResult | documentLinkResult | diagnosticResult | edgeBase
  | edgeData | edgeDataMultiIn | containsEdge | itemEdge | monikerEdge | nextMonikerEdge | nextEdge
  | packageInformationEdge | definitionEdge | declarationEdge | hoverEdge | referencesEdge | implementationEdge
  | typeDefinitionEdge | foldingRangeEdge | documentLinkEdge | documentSymbolEdge | diagnosticEdge
  | inlineCompletionClientCapabilities | inlineCompletionOptions | inlineCompletionRegistrationOptions
  | selectedCompletionInfo | inlineCompletionContext | inlineCompletionParams | stringValue | inlineCompletionItem
  | inlineCompletionList | draftTextDocumentClientCapabilities | draftClientCapabilities | draftInitializeParams
  | draftServerCapabilities | draftInitializeResult
deriving DecidableEq

/-- The name of a class in messages. -/
def Class.name : Class → String
  | .anyRecord => "LspModel"
  | .position => "Position"
  | .range => "Range"
  | .location => "Location"
  | .locationLink => "LocationLink"
  | .textDocumentIdentifier => "TextDocumentIdentifier"
  | .textDocumentItem => "TextDocumentItem"
  | .versionedTextDocumentIdentifier => "VersionedTextDocumentIdentifier"
  | .optionalVersionedTextDocumentIdentifier => "OptionalVersionedTextDocumentIdentifier"
  | .textDocumentPositionParams => "TextDocumentPositionParams"
  | .documentFilter => "DocumentFilter"
  | .workspaceFolder => "WorkspaceFolder"
  | .relativePattern => "RelativePattern"
  | .workDoneProgressParams => "WorkDoneProgressParams"
  | .partialResultParams => "PartialResultParams"
  | .workDoneProgressOptions => "WorkDoneProgressOptions"
  | .staticRegistrationOptions => "StaticRegistrationOptions"
  | .textDocumentRegistrationOptions => "TextDocumentRegistrationOptions"
  | .staticTextDocumentRegistrationOptions => "StaticTextDocumentRegistrationOptions"
  | .dynamicRegistrationClientCapabilities => "DynamicRegistrationClientCapabilities"
  | .gotoCapability => "GotoCapability"
  | .tagSupport => "TagSupport"
  | .tagSupportOfCompletionItemTag => "TagSupport[CompletionItemTag]"
  | .tagSupportOfSymbolTag => "TagSupport[SymbolTag]"
  | .tagSupportOfDiagnosticTag => "TagSupport[DiagnosticTag]"
  | .symbolKindCapability => "SymbolKindCapability"
  | .resolveSupport => "ResolveSupport"
  | .cancelParams => "CancelParams"
  | .registration => "Registration"
  | .registrationParams => "RegistrationParams"
  | .unregistration => "Unregistration"
  | .unregistrationParams => "UnregistrationParams"
  | .markupContent => "MarkupContent"
  | .languageString => "LanguageString"
  | .command => "Command"
  | .textEdit => "TextEdit"
  | .annotatedTextEdit => "AnnotatedTextEdit"
  | .textDocumentEdit => "TextDocumentEdit"
  | .changeAnnotationEntry => "ChangeAnnotation"
  | .createFileOptions => "CreateFileOptions"
  | .createFile => "CreateFile"
  | .renameFileOptions => "RenameFileOptions"
  | .renameFile => "RenameFile"
  | .deleteFileOptions => "DeleteFileOptions"
  | .deleteFile => "DeleteFile"
  | .workspaceEdit => "WorkspaceEdit"
  | .changeAnnotationWorkspaceEditClientCapabilities => "ChangeAnnotationWorkspaceEditClientCapabilities"
  | .workspaceEditClientCapabilities => "WorkspaceEditClientCapabilities"
  | .applyWorkspaceEditParams => "ApplyWorkspaceEditParams"
  | .applyWorkspaceEditResult => "ApplyWorkspaceEditResult"
  | .codeDescription => "CodeDescription"
  | .diagnosticRelatedInformation => "DiagnosticRelatedInformation"
  | .diagnostic => "Diagnostic"
  | .publishDiagnosticsClientCapabilities => "PublishDiagnosticsClientCapabilities"
  | .publishDiagnosticsParams => "PublishDiagnosticsParams"
  | .diagnosticClientCapabilities => "DiagnosticClientCapabilities"
  | .diagnosticOptions => "DiagnosticOptions"
  | .diagnosticRegistrationOptions => "DiagnosticRegistrationOptions"
  | .documentDiagnosticParams => "DocumentDiagnosticParams"
  | .fullDocumentDiagnosticReport => "FullDocumentDiagnosticReport"
  | .unchangedDocumentDiagnosticReport => "UnchangedDocumentDiagnosticReport"
  | .relatedFullDocumentDiagnosticReport => "RelatedFullDocumentDiagnosticReport"
  | .relatedUnchangedDocumentDiagnosticReport => "RelatedUnchangedDocumentDiagnosticReport"
  | .documentDiagnosticReportPartialResult => "DocumentDiagnosticReportPartialResult"
  | .diagnosticServerCancellationData => "DiagnosticServerCancellationData"
  | .previousResultId => "PreviousResultId"
  | .workspaceDiagnosticParams => "WorkspaceDiagnosticParams"
  | .workspaceFullDocumentDiagnosticReport => "WorkspaceFullDocumentDiagnosticReport"
  | .workspaceUnchangedDocumentDiagnosticReport => "WorkspaceUnchangedDocumentDiagnosticReport"
  | .workspaceDiagnosticReport => "WorkspaceDiagnosticReport"
  | .workspaceDiagnosticReportPartialResult => "WorkspaceDiagnosticReportPartialResult"
  | .saveOptions => "SaveOptions"
  | .textDocumentSyncOptions => "TextDocumentSyncOptions"
  | .textDocumentSyncClientCapabilities => "TextDocumentSyncClientCapabilities"
  | .didOpenTextDocumentParams => "DidOpenTextDocumentParams"
  | .textDocumentChangeRegistrationOptions => "TextDocumentChangeRegistrationOptions"
  | .textDocumentContentChangeEvent => "TextDocumentContentChangeEvent"
  | .didChangeTextDocumentParams => "DidChangeTextDocumentParams"
  | .willSaveTextDocumentParams => "WillSaveTextDocumentParams"
  | .textDocumentSaveRegistrationOptions => "TextDocumentSaveRegistrationOptions"
  | .didSaveTextDocumentParams => "DidSaveTextDocumentParams"
  | .didCloseTextDocumentParams => "DidCloseTextDocumentParams"
  | .hoverClientCapabilities => "HoverClientCapabilities"
  | .hoverOptions => "HoverOptions"
  | .hoverRegistrationOptions => "HoverRegistrationOptions"
  | .hoverParams => "HoverParams"
  | .hover => "Hover"
  | .parameterInformationSettings => "ParameterInformationSettings"
  | .signatureInformationSettings => "SignatureInformationSettings"
  | .signatureHelpClientCapabilities => "SignatureHelpClientCapabilities"
  | .signatureHelpOptions => "SignatureHelpOptions"
  | .signatureHelpRegistrationOptions => "SignatureHelpRegistrationOptions"
  | .parameterInformation => "ParameterInformation"
  | .signatureInformation => "SignatureInformation"
  | .signatureHelp => "SignatureHelp"
  | .signatureHelpContext => "SignatureHelpContext"
  | .signatureHelpParams => "SignatureHelpParams"
  | .insertTextModeSupport => "InsertTextModeSupport"
  | .completionItemCapability => "CompletionItemCapability"
  | .completionItemKindCapability => "CompletionItemKindCapability"
  | .completionListCapability => "CompletionListCapability"
  | .completionClientCapabilities => "CompletionClientCapabilities"
  | .completionOptionsCompletionItem => "CompletionOptionsCompletionItem"
  | .completionOptions => "CompletionOptions"
  | .completionRegistrationOptions => "CompletionRegistrationOptions"
  | .completionContext => "CompletionContext"
  | .completionParams => "CompletionParams"
  | .insertReplaceEdit => "InsertReplaceEdit"
  | .completionItemLabelDetails => "CompletionItemLabelDetails"
  | .completionItem => "CompletionItem"
  | .insertReplaceRange => "InsertReplaceRange"
  | .completionListItemDefaults => "CompletionListItemDefaults"
  | .completionList => "CompletionList"
  | .declarationOptions => "DeclarationOptions"
  | .declarationRegistrationOptions => "DeclarationRegistrationOptions"
  | .declarationParams => "DeclarationParams"
  | .definitionOptions => "DefinitionOptions"
  | .definitionRegistrationOptions => "DefinitionRegistrationOptions"
  | .definitionParams => "DefinitionParams"
  | .typeDefinitionOptions => "TypeDefinitionOptions"
  | .typeDefinitionRegistrationOptions => "TypeDefinitionRegistrationOptions"
  | .typeDefinitionParams => "TypeDefinitionParams"
  | .implementationOptions => "ImplementationOptions"
  | .implementationRegistrationOptions => "ImplementationRegistrationOptions"
  | .implementationParams => "ImplementationParams"
  | .referenceOptions => "ReferenceOptions"
  | .referenceRegistrationOptions => "ReferenceRegistrationOptions"
  | .referenceContext => "ReferenceContext"
  | .referenceParams => "ReferenceParams"
  | .documentHighlightOptions => "DocumentHighlightOptions"
  | .documentHighlightRegistrationOptions => "DocumentHighlightRegistrationOptions"
  | .documentHighlightParams => "DocumentHighlightParams"
  | .documentHighlight => "DocumentHighlight"
  | .documentSymbolClientCapabilities => "DocumentSymbolClientCapabilities"
  | .documentSymbolOptions => "DocumentSymbolOptions"
  | .documentSymbolRegistrationOptions => "DocumentSymbolRegistrationOptions"
  | .documentSymbolParams => "DocumentSymbolParams"
  | .documentSymbol => "DocumentSymbol"
  | .symbolInformation => "SymbolInformation"
  | .workspaceSymbolClientCapabilities => "WorkspaceSymbolClientCapabilities"
  | .workspaceSymbolOptions => "WorkspaceSymbolOptions"
  | .workspaceSymbolRegistrationOptions => "WorkspaceSymbolRegistrationOptions"
  | .workspaceSymbolParams => "WorkspaceSymbolParams"
  | .workspaceLocation => "WorkspaceLocation"
  | .workspaceSymbol => "WorkspaceSymbol"
  | .codeActionKindLiteralSupport => "CodeActionKindLiteralSupport"
  | .codeActionLiteralSupport => "CodeActionLiteralSupport"
  | .codeActionClientCapabilities => "CodeActionClientCapabilities"
  | .codeActionOptions => "CodeActionOptions"
  | .codeActionRegistrationOptions => "CodeActionRegistrationOptions"
  | .codeActionContext => "CodeActionContext"
  | .codeActionParams => "CodeActionParams"
  | .codeActionDisabled => "CodeActionDisabled"
  | .codeAction => "CodeAction"
  | .codeLensOptions => "CodeLensOptions"
  | .codeLensRegistrationOptions => "CodeLensRegistrationOptions"
  | .codeLensParams => "CodeLensParams"
  | .codeLens => "CodeLens"
  | .documentLinkClientCapabilities => "DocumentLinkClientCapabilities"
  | .documentLinkOptions => "DocumentLinkOptions"
  | .documentLinkRegistrationOptions => "DocumentLinkRegistrationOptions"
  | .documentLinkParams => "DocumentLinkParams"
  | .documentLink => "DocumentLink"
  | .documentColorOptions => "DocumentColorOptions"
  | .documentColorRegistrationOptions => "DocumentColorRegistrationOptions"
  | .documentColorParams => "DocumentColorParams"
  | .color => "Color"
  | .colorInformation => "ColorInformation"
  | .colorPresentationParams => "ColorPresentationParams"
  | .colorPresentation => "ColorPresentation"
  | .formattingOptions => "FormattingOptions"
  | .documentFormattingOptions => "DocumentFormattingOptions"
  | .documentFormattingRegistrationOptions => "DocumentFormattingRegistrationOptions"
  | .documentFormattingParams => "DocumentFormattingParams"
  | .documentRangeFormattingOptions => "DocumentRangeFormattingOptions"
  | .documentRangeFormattingRegistrationOptions => "DocumentRangeFormattingRegistrationOptions"
  | .documentRangeFormattingParams => "DocumentRangeFormattingParams"
  | .documentOnTypeFormattingOptions => "DocumentOnTypeFormattingOptions"
  | .documentOnTypeFormattingRegistrationOptions => "DocumentOnTypeFormattingRegistrationOptions"
  | .documentOnTypeFormattingParams => "DocumentOnTypeFormattingParams"
  | .renameClientCapabilities => "RenameClientCapabilities"
  | .renameOptions => "RenameOptions"
  | .renameRegistrationOptions => "RenameRegistrationOptions"
  | .renameParams => "RenameParams"
  | .prepareRenameParams => "PrepareRenameParams"
  | .prepareRenamePlaceholder => "PrepareRenamePlaceholder"
  | .prepareRenameDefaultBehavior => "PrepareRenameDefaultBehavior"
  | .foldingRangeKindCapability => "FoldingRangeKindCapability"
  | .foldingRangeCapability => "FoldingRangeCapability"
  | .foldingRangeClientCapabilities => "FoldingRangeClientCapabilities"
  | .foldingRangeOptions => "FoldingRangeOptions"
  | .foldingRangeRegistrationOptions => "FoldingRangeRegistrationOptions"
  | .foldingRangeParams => "FoldingRangeParams"
  | .foldingRange => "FoldingRange"
  | .selectionRangeOptions => "SelectionRangeOptions"
  | .selectionRangeRegistrationOptions => "SelectionRangeRegistrationOptions"
  | .selectionRangeParams => "SelectionRangeParams"
  | .selectionRange => "SelectionRange"
  | .linkedEditingRangeOptions => "LinkedEditingRangeOptions"
  | .linkedEditingRangeRegistrationOptions => "LinkedEditingRangeRegistrationOptions"
  | .linkedEditingRangeParams => "LinkedEditingRangeParams"
  | .linkedEditingRanges => "LinkedEditingRanges"
  | .callHierarchyOptions => "CallHierarchyOptions"
  | .callHierarchyRegistrationOptions => "CallHierarchyRegistrationOptions"
  | .callHierarchyPrepareParams => "CallHierarchyPrepareParams"
  | .callHierarchyItem => "CallHierarchyItem"
  | .callHierarchyIncomingCallsParams => "CallHierarchyIncomingCallsParams"
  | .callHierarchyIncomingCall => "CallHierarchyIncomingCall"
  | .callHierarchyOutgoingCallsParams => "CallHierarchyOutgoingCallsParams"
  | .callHierarchyOutgoingCall => "CallHierarchyOutgoingCall"
  | .typeHierarchyOptions => "TypeHierarchyOptions"
  | .typeHierarchyRegistrationOptions => "TypeHierarchyRegistrationOptions"
  | .typeHierarchyPrepareParams => "TypeHierarchyPrepareParams"
  | .typeHierarchyItem => "TypeHierarchyItem"
  | .typeHierarchySupertypesParams => "TypeHierarchySupertypesParams"
  | .typeHierarchySubtypesParams => "TypeHierarchySubtypesParams"
  | .monikerOptions => "MonikerOptions"
  | .monikerRegistrationOptions => "MonikerRegistrationOptions"
  | .monikerParams => "MonikerParams"
  | .moniker => "Moniker"
  | .semanticTokensLegend => "SemanticTokensLegend"
  | .semanticTokensClientCapabilitiesRequestsFull => "SemanticTokensClientCapabilitiesRequestsFull"
  | .semanticTokensClientCapabilitiesRequests => "SemanticTokensClientCapabilitiesRequests"
  | .semanticTokensClientCapabilities => "SemanticTokensClientCapabilities"
  | .semanticTokensFullOptions => "SemanticTokensFullOptions"
  | .semanticTokensOptions => "SemanticTokensOptions"
  | .semanticTokensRegistrationOptions => "SemanticTokensRegistrationOptions"
  | .semanticTokensParams => "SemanticTokensParams"
  | .semanticTokensDeltaParams => "SemanticTokensDeltaParams"
  | .semanticTokensRangeParams => "SemanticTokensRangeParams"
  | .semanticTokens => "SemanticTokens"
  | .semanticTokensPartialResult => "SemanticTokensPartialResult"
  | .semanticTokensEdit => "SemanticTokensEdit"
  | .semanticTokensDelta => "SemanticTokensDelta"
  | .semanticTokensDeltaPartialResult => "SemanticTokensDeltaPartialResult"
  | .inlineValueOptions => "InlineValueOptions"
  | .inlineValueRegistrationOptions => "InlineValueRegistrationOptions"
  | .inlineValueContext => "InlineValueContext"
  | .inlineValueParams => "InlineValueParams"
  | .inlineValueText => "InlineValueText"
  | .inlineValueVariableLookup => "InlineValueVariableLookup"
  | .inlineValueEvaluatableExpression => "InlineValueEvaluatableExpression"
  | .inlayHintClientCapabilities => "InlayHintClientCapabilities"
  | .inlayHintOptions => "InlayHintOptions"
  | .inlayHintRegistrationOptions => "InlayHintRegistrationOptions"
  | .inlayHintParams => "InlayHintParams"
  | .inlayHintLabelPart => "InlayHintLabelPart"
  | .inlayHint => "InlayHint"
  | .workspaceFoldersServerCapabilities => "WorkspaceFoldersServerCapabilities"
  | .workspaceFoldersChangeEvent => "WorkspaceFoldersChangeEvent"
  | .didChangeWorkspaceFoldersParams => "DidChangeWorkspaceFoldersParams"
  | .configurationItem => "ConfigurationItem"
  | .configurationParams => "ConfigurationParams"
  | .didChangeConfigurationParams => "DidChangeConfigurationParams"
  | .fileEvent => "FileEvent"
  | .didChangeWatchedFilesParams => "DidChangeWatchedFilesParams"
  | .fileSystemWatcher => "FileSystemWatcher"
  | .didChangeWatchedFilesRegistrationOptions => "DidChangeWatchedFilesRegistrationOptions"
  | .didChangeWatchedFilesClientCapabilities => "DidChangeWatchedFilesClientCapabilities"
  | .executeCommandClientCapabilities => "ExecuteCommandClientCapabilities"
  | .executeCommandOptions => "ExecuteCommandOptions"
  | .executeCommandRegistrationOptions => "ExecuteCommandRegistrationOptions"
  | .executeCommandParams => "ExecuteCommandParams"
  | .fileOperationPatternOptions => "FileOperationPatternOptions"
  | .fileOperationPattern => "FileOperationPattern"
  | .fileOperationFilter => "FileOperationFilter"
  | .fileOperationRegistrationOptions => "FileOperationRegistrationOptions"
  | .workspaceFileOperationsServerCapabilities => "WorkspaceFileOperationsServerCapabilities"
  | .workspaceFileOperationsClientCapabilities => "WorkspaceFileOperationsClientCapabilities"
  | .fileCreate => "FileCreate"
  | .createFilesParams => "CreateFilesParams"
  | .fileRename => "FileRename"
  | .renameFilesParams => "RenameFilesParams"
  | .fileDelete => "FileDelete"
  | .deleteFilesParams => "DeleteFilesParams"
  | .refreshClientCapabilities => "RefreshClientCapabilities"
  | .messageActionItem => "MessageActionItem"
  | .showMessageParams => "ShowMessageParams"
  | .showMessageRequestParams => "ShowMessageRequestParams"
  | .messageActionItemCapabilities => "MessageActionItemCapabilities"
  | .showMessageRequestClientCapabilities => "ShowMessageRequestClientCapabilities"
  | .logMessageParams => "LogMessageParams"
  | .showDocumentClientCapabilities => "ShowDocumentClientCapabilities"
  | .showDocumentParams => "ShowDocumentParams"
  | .showDocumentResult => "ShowDocumentResult"
  | .windowClientCapabilities => "WindowClientCapabilities"
  | .workDoneProgressCreateParams => "WorkDoneProgressCreateParams"
  | .workDoneProgressCancelParams => "WorkDoneProgressCancelParams"
  | .workDoneProgressBegin => "WorkDoneProgressBegin"
  | .workDoneProgressReport => "WorkDoneProgressReport"
  | .workDoneProgressEnd => "WorkDoneProgressEnd"
  | .progressParams => "ProgressParams"
  | .setTraceParams => "SetTraceParams"
  | .logTraceParams => "LogTraceParams"
  | .executionSummary => "ExecutionSummary"
  | .notebookCell => "NotebookCell"
  | .notebookDocument => "NotebookDocument"
  | .notebookDocumentFilter => "NotebookDocumentFilter"
  | .notebookCellSelector => "NotebookCellSelector"
  | .notebookSelector => "NotebookSelector"
  | .notebookDocumentSyncOptions => "NotebookDocumentSyncOptions"
  | .notebookDocumentSyncRegistrationOptions => "NotebookDocumentSyncRegistrationOptions"
  | .notebookDocumentSyncClientCapabilities => "NotebookDocumentSyncClientCapabilities"
  | .notebookDocumentClientCapabilities => "NotebookDocumentClientCapabilities"
  | .didOpenNotebookDocumentParams => "DidOpenNotebookDocumentParams"
  | .versionedNotebookDocumentIdentifier => "VersionedNotebookDocumentIdentifier"
  | .notebookCellArrayChange => "NotebookCellArrayChange"
  | .notebookDocumentCellChangeStructure => "NotebookDocumentCellChangeStructure"
  | .notebookDocumentCellContentChanges => "NotebookDocumentCellContentChanges"
  | .notebookDocumentCellChanges => "NotebookDocumentCellChanges"
  | .notebookDocumentChangeEvent => "NotebookDocumentChangeEvent"
  | .didChangeNotebookDocumentParams => "DidChangeNotebookDocumentParams"
  | .notebookDocumentIdentifier => "NotebookDocumentIdentifier"
  | .didSaveNotebookDocumentParams => "DidSaveNotebookDocumentParams"
  | .didCloseNotebookDocumentParams => "DidCloseNotebookDocumentParams"
  | .workspaceClientCapabilities => "WorkspaceClientCapabilities"
  | .textDocumentClientCapabilities => "TextDocumentClientCapabilities"
  | .staleRequestSupportClientCapabilities => "StaleRequestSupportClientCapabilities"
  | .regularExpressionsClientCapabilities => "RegularExpressionsClientCapabilities"
  | .markdownClientCapabilities => "MarkdownClientCapabilities"
  | .generalClientCapabilities => "GeneralClientCapabilities"
  | .clientCapabilities => "ClientCapabilities"
  | .workspaceServerCapabilities => "WorkspaceServerCapabilities"
  | .serverCapabilities => "ServerCapabilities"
  | .clientInfo => "ClientInfo"
  | .serverInfo => "ServerInfo"
  | .initializeParams => "InitializeParams"
  | .initializeResult => "InitializeResult"
  | .initializeError => "InitializeError"
  | .initializedParams => "InitializedParams"
  | .toolInfo => "ToolInfo"
  | .repository => "Repository"
  | .definitionTag => "DefinitionTag"
  | .declarationTag => "DeclarationTag"
  | .referenceTag => "ReferenceTag"
  | .unknownTag => "UnknownTag"
  | .rangeBasedDocumentSymbol => "RangeBasedDocumentSymbol"
  | .vertexBase => "_Vertex"
  | .metaData => "MetaData"
  | .project => "Project"
  | .document => "Document"
  | .rangeVertex => "RangeVertex"
  | .resultSet => "ResultSet"
  | .monikerVertex => "MonikerVertex"
  | .packageInformation => "PackageInformation"
  | .event => "Event"
  | .definitionResult => "DefinitionResult"
  | .declarationResult => "DeclarationResult"
  | .typeDefinitionResult => "TypeDefinitionResult"
  | .referenceResult => "ReferenceResult"
  | .implementationResult => "ImplementationResult"
  | .foldingRangeResult => "FoldingRangeResult"
  | .hoverResult => "HoverResult"
  | .documentSymbolResult => "DocumentSymbolResult"
  | .documentLinkResult => "DocumentLinkResult"
  | .diagnosticResult => "DiagnosticResult"
  | .edgeBase => "_Edge"
  | .edgeData => "EdgeData"
  | .edgeDataMultiIn => "EdgeDataMultiIn"
  | .containsEdge => "ContainsEdge"
  | .itemEdge => "ItemEdge"
  | .monikerEdge => "MonikerEdge"
  | .nextMonikerEdge => "NextMonikerEdge"
  | .nextEdge => "NextEdge"
  | .packageInformationEdge => "PackageInformationEdge"
  | .definitionEdge => "DefinitionEdge"
  | .declarationEdge => "DeclarationEdge"
  | .hoverEdge => "HoverEdge"
  | .referencesEdge => "ReferencesEdge"
  | .implementationEdge => "ImplementationEdge"
  | .typeDefinitionEdge => "TypeDefinitionEdge"
  | .foldingRangeEdge => "FoldingRangeEdge"
  | .documentLinkEdge => "DocumentLinkEdge"
  | .documentSymbolEdge => "DocumentSymbolEdge"
  | .diagnosticEdge => "DiagnosticEdge"
  | .inlineCompletionClientCapabilities => "InlineCompletionClientCapabilities"
  | .inlineCompletionOptions => "InlineCompletionOptions"
  | .inlineCompletionRegistrationOptions => "InlineCompletionRegistrationOptions"
  | .selectedCompletionInfo => "SelectedCompletionInfo"
  | .inlineCompletionContext => "InlineCompletionContext"
  | .inlineCompletionParams => "InlineCompletionParams"
  | .stringValue => "StringValue"
  | .inlineCompletionItem => "InlineCompletionItem"
  | .inlineCompletionList => "InlineCompletionList"
  | .draftTextDocumentClientCapabilities => "TextDocumentClientCapabilities"
  | .draftClientCapabilities => "ClientCapabilities"
  | .draftInitializeParams => "InitializeParams"
  | .draftServerCapabilities => "ServerCapabilities"
  | .draftInitializeResult => "InitializeResult"

/-- Whether a class belongs to the draft's version of the handshake. -/
def Class.isDraft : Class → Bool
  | .draftTextDocumentClientCapabilities | .draftClientCapabilities | .draftInitializeParams
  | .draftServerCapabilities | .draftInitializeResult => true
  | _ => false

/-- Every class. -/
def Class.all : List Class :=
  [.anyRecord, .position, .range, .location, .locationLink, .textDocumentIdentifier, .textDocumentItem,
   .versionedTextDocumentIdentifier, .optionalVersionedTextDocumentIdentifier, .textDocumentPositionParams,
   .documentFilter, .workspaceFolder, .relativePattern, .workDoneProgressParams, .partialResultParams,
   .workDoneProgressOptions, .staticRegistrationOptions, .textDocumentRegistrationOptions,
   .staticTextDocumentRegistrationOptions, .dynamicRegistrationClientCapabilities, .gotoCapability, .tagSupport,
   .tagSupportOfCompletionItemTag, .tagSupportOfSymbolTag, .tagSupportOfDiagnosticTag, .symbolKindCapability,
   .resolveSupport, .cancelParams, .registration, .registrationParams, .unregistration, .unregistrationParams,
   .markupContent, .languageString, .command, .textEdit, .annotatedTextEdit, .textDocumentEdit,
   .changeAnnotationEntry, .createFileOptions, .createFile, .renameFileOptions, .renameFile, .deleteFileOptions,
   .deleteFile, .workspaceEdit, .changeAnnotationWorkspaceEditClientCapabilities, .workspaceEditClientCapabilities,
   .applyWorkspaceEditParams, .applyWorkspaceEditResult, .codeDescription, .diagnosticRelatedInformation,
   .diagnostic, .publishDiagnosticsClientCapabilities, .publishDiagnosticsParams, .diagnosticClientCapabilities,
   .diagnosticOptions, .diagnosticRegistrationOptions, .documentDiagnosticParams, .fullDocumentDiagnosticReport,
   .unchangedDocumentDiagnosticReport, .relatedFullDocumentDiagnosticReport,
   .relatedUnchangedDocumentDiagnosticReport, .documentDiagnosticReportPartialResult,
   .diagnosticServerCancellationData, .previousResultId, .workspaceDiagnosticParams,
   .workspaceFullDocumentDiagnosticReport, .workspaceUnchangedDocumentDiagnosticReport, .workspaceDiagnosticReport,
   .workspaceDiagnosticReportPartialResult, .saveOptions, .textDocumentSyncOptions,
   .textDocumentSyncClientCapabilities, .didOpenTextDocumentParams, .textDocumentChangeRegistrationOptions,
   .textDocumentContentChangeEvent, .didChangeTextDocumentParams, .willSaveTextDocumentParams,
   .textDocumentSaveRegistrationOptions, .didSaveTextDocumentParams, .didCloseTextDocumentParams,
   .hoverClientCapabilities, .hoverOptions, .hoverRegistrationOptions, .hoverParams, .hover,
   .parameterInformationSettings, .signatureInformationSettings, .signatureHelpClientCapabilities,
   .signatureHelpOptions, .signatureHelpRegistrationOptions, .parameterInformation, .signatureInformation,
   .signatureHelp, .signatureHelpContext, .signatureHelpParams, .insertTextModeSupport, .completionItemCapability,
   .completionItemKindCapability, .completionListCapability, .completionClientCapabilities,
   .completionOptionsCompletionItem, .completionOptions, .completionRegistrationOptions, .completionContext,
   .completionParams, .insertReplaceEdit, .completionItemLabelDetails, .completionItem, .insertReplaceRange,
   .completionListItemDefaults, .completionList, .declarationOptions, .declarationRegistrationOptions,
   .declarationParams, .definitionOptions, .definitionRegistrationOptions, .definitionParams, .typeDefinitionOptions,
   .typeDefinitionRegistrationOptions, .typeDefinitionParams, .implementationOptions,
   .implementationRegistrationOptions, .implementationParams, .referenceOptions, .referenceRegistrationOptions,
   .referenceContext, .referenceParams, .documentHighlightOptions, .documentHighlightRegistrationOptions,
   .documentHighlightParams, .documentHighlight, .documentSymbolClientCapabilities, .documentSymbolOptions,
   .documentSymbolRegistrationOptions, .documentSymbolParams, .documentSymbol, .symbolInformation,
   .workspaceSymbolClientCapabilities, .workspaceSymbolOptions, .workspaceSymbolRegistrationOptions,
   .workspaceSymbolParams, .workspaceLocation, .workspaceSymbol, .codeActionKindLiteralSupport,
   .codeActionLiteralSupport, .codeActionClientCapabilities, .codeActionOptions, .codeActionRegistrationOptions,
   .codeActionContext, .codeActionParams, .codeActionDisabled, .codeAction, .codeLensOptions,
   .codeLensRegistrationOptions, .codeLensParams, .codeLens, .documentLinkClientCapabilities, .documentLinkOptions,
   .documentLinkRegistrationOptions, .documentLinkParams, .documentLink, .documentColorOptions,
   .documentColorRegistrationOptions, .documentColorParams, .color, .colorInformation, .colorPresentationParams,
   .colorPresentation, .formattingOptions, .documentFormattingOptions, .documentFormattingRegistrationOptions,
   .documentFormattingParams, .documentRangeFormattingOptions, .documentRangeFormattingRegistrationOptions,
   .documentRangeFormattingParams, .documentOnTypeFormattingOptions, .documentOnTypeFormattingRegistrationOptions,
   .documentOnTypeFormattingParams, .renameClientCapabilities, .renameOptions, .renameRegistrationOptions,
   .renameParams, .prepareRenameParams, .prepareRenamePlaceholder, .prepareRenameDefaultBehavior,
   .foldingRangeKindCapability, .foldingRangeCapability, .foldingRangeClientCapabilities, .foldingRangeOptions,
   .foldingRangeRegistrationOptions, .foldingRangeParams, .foldingRange, .selectionRangeOptions,
   .selectionRangeRegistrationOptions, .selectionRangeParams, .selectionRange, .linkedEditingRangeOptions,
   .linkedEditingRangeRegistrationOptions, .linkedEditingRangeParams, .linkedEditingRanges, .callHierarchyOptions,
   .callHierarchyRegistrationOptions, .callHierarchyPrepareParams, .callHierarchyItem,
   .callHierarchyIncomingCallsParams, .callHierarchyIncomingCall, .callHierarchyOutgoingCallsParams,
   .callHierarchyOutgoingCall, .typeHierarchyOptions, .typeHierarchyRegistrationOptions, .typeHierarchyPrepareParams,
   .typeHierarchyItem, .typeHierarchySupertypesParams, .typeHierarchySubtypesParams, .monikerOptions,
   .monikerRegistrationOptions, .monikerParams, .moniker, .semanticTokensLegend,
   .semanticTokensClientCapabilitiesRequestsFull, .semanticTokensClientCapabilitiesRequests,
   .semanticTokensClientCapabilities, .semanticTokensFullOptions, .semanticTokensOptions,
   .semanticTokensRegistrationOptions, .semanticTokensParams, .semanticTokensDeltaParams, .semanticTokensRangeParams,
   .semanticTokens, .semanticTokensPartialResult, .semanticTokensEdit, .semanticTokensDelta,
   .semanticTokensDeltaPartialResult, .inlineValueOptions, .inlineValueRegistrationOptions, .inlineValueContext,
   .inlineValueParams, .inlineValueText, .inlineValueVariableLookup, .inlineValueEvaluatableExpression,
   .inlayHintClientCapabilities, .inlayHintOptions, .inlayHintRegistrationOptions, .inlayHintParams,
   .inlayHintLabelPart, .inlayHint, .workspaceFoldersServerCapabilities, .workspaceFoldersChangeEvent,
   .didChangeWorkspaceFoldersParams, .configurationItem, .configurationParams, .didChangeConfigurationParams,
   .fileEvent, .didChangeWatchedFilesParams, .fileSystemWatcher, .didChangeWatchedFilesRegistrationOptions,
   .didChangeWatchedFilesClientCapabilities, .executeCommandClientCapabilities, .executeCommandOptions,
   .executeCommandRegistrationOptions, .executeCommandParams, .fileOperationPatternOptions, .fileOperationPattern,
   .fileOperationFilter, .fileOperationRegistrationOptions, .workspaceFileOperationsServerCapabilities,
   .workspaceFileOperationsClientCapabilities, .fileCreate, .createFilesParams, .fileRename, .renameFilesParams,
   .fileDelete, .deleteFilesParams, .refreshClientCapabilities, .messageActionItem, .showMessageParams,
   .showMessageRequestParams, .messageActionItemCapabilities, .showMessageRequestClientCapabilities,
   .logMessageParams, .showDocumentClientCapabilities, .showDocumentParams, .showDocumentResult,
   .windowClientCapabilities, .workDoneProgressCreateParams, .workDoneProgressCancelParams, .workDoneProgressBegin,
   .workDoneProgressReport, .workDoneProgressEnd, .progressParams, .setTraceParams, .logTraceParams,
   .executionSummary, .notebookCell, .notebookDocument, .notebookDocumentFilter, .notebookCellSelector,
   .notebookSelector, .notebookDocumentSyncOptions, .notebookDocumentSyncRegistrationOptions,
   .notebookDocumentSyncClientCapabilities, .notebookDocumentClientCapabilities, .didOpenNotebookDocumentParams,
   .versionedNotebookDocumentIdentifier, .notebookCellArrayChange, .notebookDocumentCellChangeStructure,
   .notebookDocumentCellContentChanges, .notebookDocumentCellChanges, .notebookDocumentChangeEvent,
   .didChangeNotebookDocumentParams, .notebookDocumentIdentifier, .didSaveNotebookDocumentParams,
   .didCloseNotebookDocumentParams, .workspaceClientCapabilities, .textDocumentClientCapabilities,
   .staleRequestSupportClientCapabilities, .regularExpressionsClientCapabilities, .markdownClientCapabilities,
   .generalClientCapabilities, .clientCapabilities, .workspaceServerCapabilities, .serverCapabilities, .clientInfo,
   .serverInfo, .initializeParams, .initializeResult, .initializeError, .initializedParams, .toolInfo, .repository,
   .definitionTag, .declarationTag, .referenceTag, .unknownTag, .rangeBasedDocumentSymbol, .vertexBase, .metaData,
   .project, .document, .rangeVertex, .resultSet, .monikerVertex, .packageInformation, .event, .definitionResult,
   .declarationResult, .typeDefinitionResult, .referenceResult, .implementationResult, .foldingRangeResult,
   .hoverResult, .documentSymbolResult, .documentLinkResult, .diagnosticResult, .edgeBase, .edgeData,
   .edgeDataMultiIn, .containsEdge, .itemEdge, .monikerEdge, .nextMonikerEdge, .nextEdge, .packageInformationEdge,
   .definitionEdge, .declarationEdge, .hoverEdge, .referencesEdge, .implementationEdge, .typeDefinitionEdge,
   .foldingRangeEdge, .documentLinkEdge, .documentSymbolEdge, .diagnosticEdge, .inlineCompletionClientCapabilities,
   .inlineCompletionOptions, .inlineCompletionRegistrationOptions, .selectedCompletionInfo, .inlineCompletionContext,
   .inlineCompletionParams, .stringValue, .inlineCompletionItem, .inlineCompletionList,
   .draftTextDocumentClientCapabilities, .draftClientCapabilities, .draftInitializeParams, .draftServerCapabilities,
   .draftInitializeResult]

end LspWire
