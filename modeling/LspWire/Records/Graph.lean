import LspWire.Schema.Record
import LspWire.Records.Hierarchy

/-!
# Entries of an index dump
-/

namespace LspWire.Schema

/-- Information about the tool that created the dump. -/
def toolInfo : Record := record .toolInfo [
  required "name" .str,
  optional "args" (.list .str),
  optional "version" .str]

def repository : Record := record .repository [required "type" .str, required "url" .str, optional "commitId" .str]

/-- Tags a range as the definition of a symbol. -/
def definitionTag : Record := record .definitionTag [
  tag "type" "definition",
  required "text" .str,
  required "kind" (.intEnum .symbolKind),
  optional "deprecated" .bool,
  required "fullRange" (.record .range),
  optional "detail" .str]

def declarationTag : Record := record .declarationTag [
  tag "type" "declaration",
  required "text" .str,
  required "kind" (.intEnum .symbolKind),
  optional "deprecated" .bool,
  required "fullRange" (.record .range),
  optional "detail" .str]

def referenceTag : Record := record .referenceTag [tag "type" "reference", required "text" .str]

def unknownTag : Record := record .unknownTag [tag "type" "unknown", required "text" .str]

/-- What a range of the index denotes, told by its `type`. -/
def rangeTag : Ty :=
  .tagged "type" [
    ("definition", .record .definitionTag),
    ("declaration", .record .declarationTag),
    ("reference", .record .referenceTag),
    ("unknown", .record .unknownTag)]

/-- A document symbol expressed through range vertex ids. -/
def rangeBasedDocumentSymbol : Record := record .rangeBasedDocumentSymbol [
  required "id" .numberOrString,
  optional "children" (.list (.record .rangeBasedDocumentSymbol))]

/-- Symbols as trees, or as the ranges that stand for them. -/
def symbolsOrRanges : Ty := .oneOf [.list (.record .documentSymbol), .list (.record .rangeBasedDocumentSymbol)]

/-- What every vertex has. -/
def vertexBase : Record := record .vertexBase [required "id" .numberOrString, tag "type" "vertex"]

/-- The first vertex of every dump. -/
def metaData : Record := extend .metaData [vertexBase] [
  tag "label" "metaData",
  required "version" .str,
  required "projectRoot" .uri,
  required "positionEncoding" (.closedEnum .encoding),
  optional "toolInfo" (.record .toolInfo)]

def project : Record := extend .project [vertexBase] [
  tag "label" "project",
  required "kind" .str,
  optional "name" .str,
  optional "resource" .uri,
  optional "content" .str]

/-- A text document that is part of the dump. -/
def document : Record := extend .document [vertexBase] [
  tag "label" "document",
  required "uri" .uri,
  required "languageId" .str,
  optional "contents" .str]

/-- A range inside a document, optionally tagged with what it denotes. -/
def rangeVertex : Record := extend .rangeVertex [vertexBase] [
  tag "label" "range",
  required "start" (.record .position),
  required "end" (.record .position),
  optional "tag" rangeTag]

def resultSet : Record := extend .resultSet [vertexBase] [tag "label" "resultSet", optional "key" .str]

def monikerVertex : Record := extend .monikerVertex [vertexBase, moniker] [tag "label" "moniker"]

/-- Information about the package a moniker belongs to. -/
def packageInformation : Record := extend .packageInformation [vertexBase] [
  tag "label" "packageInformation",
  required "name" .str,
  required "manager" .str,
  optional "uri" .uri,
  optional "content" .str,
  optional "repository" (.record .repository),
  optional "version" .str]

/-- Marks the beginning or end of the entries of a document or project. -/
def event : Record := extend .event [vertexBase] [
  tag "label" "$event",
  required "kind" (.closedEnum .eventKind),
  required "scope" (.closedEnum .eventScope),
  required "data" .numberOrString]

def definitionResult : Record := extend .definitionResult [vertexBase] [tag "label" "definitionResult"]

def declarationResult : Record := extend .declarationResult [vertexBase] [tag "label" "declarationResult"]

def typeDefinitionResult : Record := extend .typeDefinitionResult [vertexBase] [tag "label" "typeDefinitionResult"]

def referenceResult : Record := extend .referenceResult [vertexBase] [tag "label" "referenceResult"]

def implementationResult : Record := extend .implementationResult [vertexBase] [tag "label" "implementationResult"]

def foldingRangeResult : Record := extend .foldingRangeResult [vertexBase] [
  tag "label" "foldingRangeResult",
  required "result" (.list (.record .foldingRange))]

def hoverResult : Record := extend .hoverResult [vertexBase] [
  tag "label" "hoverResult",
  required "result" (.record .hover)]

def documentSymbolResult : Record := extend .documentSymbolResult [vertexBase] [
  tag "label" "documentSymbolResult",
  required "result" symbolsOrRanges]

def documentLinkResult : Record := extend .documentLinkResult [vertexBase] [
  tag "label" "documentLinkResult",
  required "result" (.list (.record .documentLink))]

def diagnosticResult : Record := extend .diagnosticResult [vertexBase] [
  tag "label" "diagnosticResult",
  required "result" (.list (.record .diagnostic))]

/-- A vertex of the index, told by its `label`. -/
def vertex : Ty :=
  .tagged "label" [
    ("metaData", .record .metaData),
    ("project", .record .project),
    ("document", .record .document),
    ("range", .record .rangeVertex),
    ("resultSet", .record .resultSet),
    ("moniker", .record .monikerVertex),
    ("packageInformation", .record .packageInformation),
    ("$event", .record .event),
    ("definitionResult", .record .definitionResult),
    ("declarationResult", .record .declarationResult),
    ("typeDefinitionResult", .record .typeDefinitionResult),
    ("referenceResult", .record .referenceResult),
    ("implementationResult", .record .implementationResult),
    ("foldingRangeResult", .record .foldingRangeResult),
    ("hoverResult", .record .hoverResult),
    ("documentSymbolResult", .record .documentSymbolResult),
    ("documentLinkResult", .record .documentLinkResult),
    ("diagnosticResult", .record .diagnosticResult)]

/-- What every edge has. -/
def edgeBase : Record := record .edgeBase [required "id" .numberOrString, tag "type" "edge"]

/-- Connects one vertex to another. -/
def edgeData : Record := record .edgeData [required "inV" .numberOrString, required "outV" .numberOrString]

/-- Connects one vertex to many. -/
def edgeDataMultiIn : Record := record .edgeDataMultiIn [
  required "inVs" (.list .numberOrString),
  required "outV" .numberOrString]

def containsEdge : Record := extend .containsEdge [edgeBase, edgeDataMultiIn] [tag "label" "contains"]

/-- Connects a result vertex to the ranges of one document. -/
def itemEdge : Record := extend .itemEdge [edgeBase, edgeDataMultiIn] [
  tag "label" "item",
  required "document" .numberOrString,
  optional "property" (.closedEnum .itemKind)]

def monikerEdge : Record := extend .monikerEdge [edgeBase, edgeData] [tag "label" "moniker"]

def nextMonikerEdge : Record := extend .nextMonikerEdge [edgeBase, edgeData] [tag "label" "nextMoniker"]

def nextEdge : Record := extend .nextEdge [edgeBase, edgeData] [tag "label" "next"]

def packageInformationEdge : Record := extend .packageInformationEdge [edgeBase, edgeData] [
  tag "label" "packageInformation"]

def definitionEdge : Record := extend .definitionEdge [edgeBase, edgeData] [tag "label" "textDocument/definition"]

def declarationEdge : Record := extend .declarationEdge [edgeBase, edgeData] [tag "label" "textDocument/declaration"]

def hoverEdge : Record := extend .hoverEdge [edgeBase, edgeData] [tag "label" "textDocument/hover"]

def referencesEdge : Record := extend .referencesEdge [edgeBase, edgeData] [tag "label" "textDocument/references"]

def implementationEdge : Record := extend .implementationEdge [edgeBase, edgeData] [
  tag "label" "textDocument/implementation"]

def typeDefinitionEdge : Record := extend .typeDefinitionEdge [edgeBase, edgeData] [
  tag "label" "textDocument/typeDefinition"]

def foldingRangeEdge : Record := extend .foldingRangeEdge [edgeBase, edgeData] [
  tag "label" "textDocument/foldingRange"]

def documentLinkEdge : Record := extend .documentLinkEdge [edgeBase, edgeData] [
  tag "label" "textDocument/documentLink"]

def documentSymbolEdge : Record := extend .documentSymbolEdge [edgeBase, edgeData] [
  tag "label" "textDocument/documentSymbol"]

def diagnosticEdge : Record := extend .diagnosticEdge [edgeBase, edgeData] [tag "label" "textDocument/diagnostic"]

/-- An edge of the index, told by its `label`. -/
def edge : Ty :=
  .tagged "label" [
    ("contains", .record .containsEdge),
    ("item", .record .itemEdge),
    ("moniker", .record .monikerEdge),
    ("nextMoniker", .record .nextMonikerEdge),
    ("next", .record .nextEdge),
    ("packageInformation", .record .packageInformationEdge),
    ("textDocument/definition", .record .definitionEdge),
    ("textDocument/declaration", .record .declarationEdge),
    ("textDocument/hover", .record .hoverEdge),
    ("textDocument/references", .record .referencesEdge),
    ("textDocument/implementation", .record .implementationEdge),
    ("textDocument/typeDefinition", .record .typeDefinitionEdge),
    ("textDocument/foldingRange", .record .foldingRangeEdge),
    ("textDocument/documentLink", .record .documentLinkEdge),
    ("textDocument/documentSymbol", .record .documentSymbolEdge),
    ("textDocument/diagnostic", .record .diagnosticEdge)]

/-- An entry of the index: a vertex or an edge, told by its `type`. -/
def entry : Ty := .tagged "type" [("vertex", vertex), ("edge", edge)]

end LspWire.Schema
