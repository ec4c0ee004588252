/-!
# The enumerations of the protocol

Three families of named constants. Integer constants and string kinds are open: a value without a name is kept, so that
a newer peer can be read. A choice is closed: only its texts are values. Names are written in capitals with `_` between
words, in declaration order.
-/

namespace LspWire

/-- Named constants, in declaration order. -/
structure Constants (α : Type) where
  name : String
  members : List (String × α)

/-- The name of a constant. -/
def Constants.nameOf? {α : Type} [BEq α] (c : Constants α) (a : α) : Option String :=
  (c.members.find? fun m => m.2 == a).map (·.1)

/-! ## Integer constants -/

/-- The enumerations of integer constants. -/
inductive IntEnum where
  | errorCode
  | diagnosticSeverity
  | diagnosticTag
  | symbolKind
  | symbolTag
  | textDocumentSyncKind
  | textDocumentSaveReason
  | completionItemKind
  | completionItemTag
  | insertTextFormat
  | insertTextMode
  | completionTriggerKind
  | signatureHelpTriggerKind
  | documentHighlightKind
  | codeActionTriggerKind
  | prepareSupportDefaultBehavior
  | inlayHintKind
  | fileChangeType
  | messageType
  | notebookCellKind
  | inlineCompletionTriggerKind
deriving DecidableEq, Repr

/-- The name and the constants of an enumeration. -/
def IntEnum.constants : IntEnum → Constants Int
  | .errorCode => ⟨"ErrorCode",
     [("SERVER_NOT_INITIALIZED", (-32002)), ("UNKNOWN_ERROR_CODE", (-32001)),
      ("LSP_RESERVED_ERROR_RANGE_START", (-32899)), ("REQUEST_FAILED", (-32803)), ("SERVER_CANCELLED", (-32802)),
      ("CONTENT_MODIFIED", (-32801)), ("REQUEST_CANCELLED", (-32800))]⟩
  | .diagnosticSeverity => ⟨"DiagnosticSeverity",
     [("ERROR", 1), ("WARNING", 2), ("INFORMATION", 3), ("HINT", 4)]⟩
  | .diagnosticTag => ⟨"DiagnosticTag",
     [("UNNECESSARY", 1), ("DEPRECATED", 2)]⟩
  | .symbolKind => ⟨"SymbolKind",
     [("FILE", 1), ("MODULE", 2), ("NAMESPACE", 3), ("PACKAGE", 4), ("CLASS", 5), ("METHOD", 6), ("PROPERTY", 7),
      ("FIELD", 8), ("CONSTRUCTOR", 9), ("ENUM", 10), ("INTERFACE", 11), ("FUNCTION", 12), ("VARIABLE", 13),
      ("CONSTANT", 14), ("STRING", 15), ("NUMBER", 16), ("BOOLEAN", 17), ("ARRAY", 18), ("OBJECT", 19),
      ("KEY", 20), ("NULL", 21), ("ENUM_MEMBER", 22), ("STRUCT", 23), ("EVENT", 24), ("OPERATOR", 25),
      ("TYPE_PARAMETER", 26)]⟩
  | .symbolTag => ⟨"SymbolTag",
     [("DEPRECATED", 1)]⟩
  | .textDocumentSyncKind => ⟨"TextDocumentSyncKind",
     [("NONE", 0), ("FULL", 1), ("INCREMENTAL", 2)]⟩
  | .textDocumentSaveReason => ⟨"TextDocumentSaveReason",
     [("MANUAL", 1), ("AFTER_DELAY", 2), ("FOCUS_OUT", 3)]⟩
  | .completionItemKind => ⟨"CompletionItemKind",
     [("TEXT", 1), ("METHOD", 2), ("FUNCTION", 3), ("CONSTRUCTOR", 4), ("FIELD", 5), ("VARIABLE", 6),
      ("CLASS", 7), ("INTERFACE", 8), ("MODULE", 9), ("PROPERTY", 10), ("UNIT", 11), ("VALUE", 12), ("ENUM", 13),
      ("KEYWORD", 14), ("SNIPPET", 15), ("COLOR", 16), ("FILE", 17), ("REFERENCE", 18), ("FOLDER", 19),
      ("ENUM_MEMBER", 20), ("CONSTANT", 21), ("STRUCT", 22), ("EVENT", 23), ("OPERATOR", 24),
      ("TYPE_PARAMETER", 25)]⟩
  | .completionItemTag => ⟨"CompletionItemTag",
     [("DEPRECATED", 1)]⟩
  | .insertTextFormat => ⟨"InsertTextFormat",
     [("PLAIN_TEXT", 1), ("SNIPPET", 2)]⟩
  | .insertTextMode => ⟨"InsertTextMode",
     [("AS_IS", 1), ("ADJUST_INDENTATION", 2)]⟩
  | .completionTriggerKind => ⟨"CompletionTriggerKind",
     [("INVOKED", 1), ("TRIGGER_CHARACTER", 2), ("TRIGGER_FOR_INCOMPLETE_COMPLETIONS", 3)]⟩
  | .signatureHelpTriggerKind => ⟨"SignatureHelpTriggerKind",
     [("INVOKED", 1), ("TRIGGER_CHARACTER", 2), ("CONTENT_CHANGE", 3)]⟩
  | .documentHighlightKind => ⟨"DocumentHighlightKind",
     [("TEXT", 1), ("READ", 2), ("WRITE", 3)]⟩
  | .codeActionTriggerKind => ⟨"CodeActionTriggerKind",
     [("INVOKED", 1), ("AUTOMATIC", 2)]⟩
  | .prepareSupportDefaultBehavior => ⟨"PrepareSupportDefaultBehavior",
     [("IDENTIFIER", 1)]⟩
  | .inlayHintKind => ⟨"InlayHintKind",
     [("TYPE", 1), ("PARAMETER", 2)]⟩
  | .fileChangeType => ⟨"FileChangeType",
     [("CREATED", 1), ("CHANGED", 2), ("DELETED", 3)]⟩
  | .messageType => ⟨"MessageType",
     [("ERROR", 1), ("WARNING", 2), ("INFO", 3), ("LOG", 4)]⟩
  | .notebookCellKind => ⟨"NotebookCellKind",
     [("MARKUP", 1), ("CODE", 2)]⟩
  | .inlineCompletionTriggerKind => ⟨"InlineCompletionTriggerKind",
     [("INVOKED", 1), ("AUTOMATIC", 2)]⟩

/-- Every one of them. -/
def IntEnum.all : List IntEnum :=
  [.errorCode, .diagnosticSeverity, .diagnosticTag, .symbolKind, .symbolTag, .textDocumentSyncKind,
   .textDocumentSaveReason, .completionItemKind, .completionItemTag, .insertTextFormat, .insertTextMode,
   .completionTriggerKind, .signatureHelpTriggerKind, .documentHighlightKind, .codeActionTriggerKind,
   .prepareSupportDefaultBehavior, .inlayHintKind, .fileChangeType, .messageType, .notebookCellKind,
   .inlineCompletionTriggerKind]

/-! ## Open string kinds -/

/-- The open enumerations of string kinds. -/
inductive OpenEnum where
  | positionEncodingKind
  | codeActionKind
  | foldingRangeKind
  | semanticTokenType
  | semanticTokenModifier
deriving DecidableEq, Repr

/-- The name and the kinds of an enumeration. -/
def OpenEnum.constants : OpenEnum → Constants String
  | .positionEncodingKind => ⟨"PositionEncodingKind",
     [("UTF8", "utf-8"), ("UTF16", "utf-16"), ("UTF32", "utf-32")]⟩
  | .codeActionKind => ⟨"CodeActionKind",
     [("EMPTY", ""), ("QUICKFIX", "quickfix"), ("REFACTOR", "refactor"),
      ("REFACTOR_EXTRACT", "refactor.extract"), ("REFACTOR_INLINE", "refactor.inline"),
      ("REFACTOR_REWRITE", "refactor.rewrite"), ("SOURCE", "source"),
      ("SOURCE_ORGANIZE_IMPORTS", "source.organizeImports"), ("SOURCE_FIX_ALL", "source.fixAll")]⟩
  | .foldingRangeKind => ⟨"FoldingRangeKind",
     [("COMMENT", "comment"), ("IMPORTS", "imports"), ("REGION", "region")]⟩
  | .semanticTokenType => ⟨"SemanticTokenType",
     [("NAMESPACE", "namespace"), ("TYPE", "type"), ("CLASS", "class"), ("ENUM", "enum"),
      ("INTERFACE", "interface"), ("STRUCT", "struct"), ("TYPE_PARAMETER", "typeParameter"),
      ("PARAMETER", "parameter"), ("VARIABLE", "variable"), ("PROPERTY", "property"),
      ("ENUM_MEMBER", "enumMember"), ("EVENT", "event"), ("FUNCTION", "function"), ("METHOD", "method"),
      ("MACRO", "macro"), ("KEYWORD", "keyword"), ("MODIFIER", "modifier"), ("COMMENT", "comment"),
      ("STRING", "string"), ("NUMBER", "number"), ("REGEXP", "regexp"), ("OPERATOR", "operator"),
      ("DECORATOR", "decorator")]⟩
  | .semanticTokenModifier => ⟨"SemanticTokenModifier",
     [("DECLARATION", "declaration"), ("DEFINITION", "definition"), ("READONLY", "readonly"),
      ("STATIC", "static"), ("DEPRECATED", "deprecated"), ("ABSTRACT", "abstract"), ("ASYNC", "async"),
      ("MODIFICATION", "modification"), ("DOCUMENTATION", "documentation"),
      ("DEFAULT_LIBRARY", "defaultLibrary")]⟩

/-- Every one of them. -/
def OpenEnum.all : List OpenEnum :=
  [.positionEncodingKind, .codeActionKind, .foldingRangeKind, .semanticTokenType, .semanticTokenModifier]

/-! ## Closed choices -/

/-- The closed enumerations. -/
inductive ClosedEnum where
  | markupKind
  | tokenFormat
  | uniquenessLevel
  | monikerKind
  | documentDiagnosticReportKind
  | resourceOperationKind
  | failureHandlingKind
  | fileOperationPatternKind
  | traceValue
  | encoding
  | eventKind
  | eventScope
  | itemKind
  | errorKind
deriving DecidableEq, Repr

/-- The name and the choices of an enumeration. -/
def ClosedEnum.constants : ClosedEnum → Constants String
  | .markupKind => ⟨"MarkupKind",
     [("PLAINTEXT", "plaintext"), ("MARKDOWN", "markdown")]⟩
  | .tokenFormat => ⟨"TokenFormat",
     [("RELATIVE", "relative")]⟩
  | .uniquenessLevel => ⟨"UniquenessLevel",
     [("DOCUMENT", "document"), ("PROJECT", "project"), ("GROUP", "group"), ("SCHEME", "scheme"),
      ("GLOBAL", "global")]⟩
  | .monikerKind => ⟨"MonikerKind",
     [("IMPORT", "import"), ("EXPORT", "export"), ("LOCAL", "local")]⟩
  | .documentDiagnosticReportKind => ⟨"DocumentDiagnosticReportKind",
     [("FULL", "full"), ("UNCHANGED", "unchanged")]⟩
  | .resourceOperationKind => ⟨"ResourceOperationKind",
     [("CREATE", "create"), ("RENAME", "rename"), ("DELETE", "delete")]⟩
  | .failureHandlingKind => ⟨"FailureHandlingKind",
     [("ABORT", "abort"), ("TRANSACTIONAL", "transactional"),
      ("TEXT_ONLY_TRANSACTIONAL", "textOnlyTransactional"), ("UNDO", "undo")]⟩
  | .fileOperationPatternKind => ⟨"FileOperationPatternKind",
     [("FILE", "file"), ("FOLDER", "folder")]⟩
  | .traceValue => ⟨"TraceValue",
     [("OFF", "off"), ("MESSAGES", "messages"), ("VERBOSE", "verbose")]⟩
  | .encoding => ⟨"Encoding",
     [("UTF16", "utf-16")]⟩
  | .eventKind => ⟨"EventKind",
     [("BEGIN", "begin"), ("END", "end")]⟩
  | .eventScope => ⟨"EventScope",
     [("DOCUMENT", "document"), ("PROJECT", "project")]⟩
  | .itemKind => ⟨"ItemKind",
     [("DECLARATIONS", "declarations"), ("DEFINITIONS", "definitions"), ("REFERENCES", "references"),
      ("REFERENCE_RESULTS", "referenceResults"), ("IMPLEMENTATION_RESULTS", "implementationResults")]⟩
  | .errorKind => ⟨"ErrorKind",
     [("STRUCTURAL", "structural"), ("MISSING_FIELD", "missingField"), ("INVALID_PRIMITIVE", "invalidPrimitive"),
      ("DISCRIMINATOR_MISMATCH", "discriminatorMismatch")]⟩

/-- Every one of them. -/
def ClosedEnum.all : List ClosedEnum :=
  [.markupKind, .tokenFormat, .uniquenessLevel, .monikerKind, .documentDiagnosticReportKind,
   .resourceOperationKind, .failureHandlingKind, .fileOperationPatternKind, .traceValue, .encoding, .eventKind,
   .eventScope, .itemKind, .errorKind]

end LspWire
