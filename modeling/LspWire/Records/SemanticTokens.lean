import LspWire.Schema.Record
import LspWire.Records.Registration

/-!
# Semantic tokens
-/

namespace LspWire.Schema

/-- The legend that maps token type and modifier indices to names. -/
def semanticTokensLegend : Record := record .semanticTokensLegend [
  required "tokenTypes" (.list (.openEnum .semanticTokenType)),
  required "tokenModifiers" (.list (.openEnum .semanticTokenModifier))]

def semanticTokensClientCapabilitiesRequestsFull : Record :=
  record .semanticTokensClientCapabilitiesRequestsFull [
    optional "delta" .bool]

/-- Which requests the client supports. -/
def semanticTokensClientCapabilitiesRequests : Record := record .semanticTokensClientCapabilitiesRequests [
  optional "range" (.oneOf [.bool, .object]),
  optional "full" (.oneOf [.bool, .record .semanticTokensClientCapabilitiesRequestsFull])]

/-- Client capabilities for the `textDocument/semanticTokens` requests. -/
def semanticTokensClientCapabilities : Record := record .semanticTokensClientCapabilities [
  optional "dynamicRegistration" .bool,
  required "requests" (.record .semanticTokensClientCapabilitiesRequests),
  required "tokenTypes" (.list (.openEnum .semanticTokenType)),
  required "tokenModifiers" (.list (.openEnum .semanticTokenModifier)),
  required "formats" (.list (.closedEnum .tokenFormat)),
  optional "overlappingTokenSupport" .bool,
  optional "multilineTokenSupport" .bool,
  optional "serverCancelSupport" .bool,
  optional "augmentsSyntaxTokens" .bool]

def semanticTokensFullOptions : Record := record .semanticTokensFullOptions [optional "delta" .bool]

/-- Semantic tokens options advertised by the server. -/
def semanticTokensOptions : Record := extend .semanticTokensOptions [workDoneProgressOptions] [
  required "legend" (.record .semanticTokensLegend),
  optional "range" (.oneOf [.bool, .object]),
  optional "full" (.oneOf [.bool, .record .semanticTokensFullOptions])]

def semanticTokensRegistrationOptions : Record :=
  extend .semanticTokensRegistrationOptions
    [textDocumentRegistrationOptions, semanticTokensOptions, staticRegistrationOptions] []

def semanticTokensServerCapabilities : Ty := .provider false .semanticTokensOptions .semanticTokensRegistrationOptions

def semanticTokensParams : Record :=
  extend .semanticTokensParams [workDoneProgressParams, partialResultParams] [
    required "textDocument" (.record .textDocumentIdentifier)]

def semanticTokensDeltaParams : Record :=
  extend .semanticTokensDeltaParams [workDoneProgressParams, partialResultParams] [
    required "textDocument" (.record .textDocumentIdentifier),
    required "previousResultId" .str]

def semanticTokensRangeParams : Record :=
  extend .semanticTokensRangeParams [workDoneProgressParams, partialResultParams] [
    required "textDocument" (.record .textDocumentIdentifier),
    required "range" (.record .range)]

/-- Semantic tokens of a document. -/
def semanticTokens : Record := record .semanticTokens [optional "resultId" .str, required "data" (.list .uint32)]

def semanticTokensPartialResult : Record := record .semanticTokensPartialResult [required "data" (.list .uint32)]

/-- A single edit of the semantic tokens array. -/
def semanticTokensEdit : Record := record .semanticTokensEdit [
  required "start" .uint32,
  required "deleteCount" .uint32,
  optional "data" (.list .uint32)]

def semanticTokensDelta : Record := record .semanticTokensDelta [
  optional "resultId" .str,
  required "edits" (.list (.record .semanticTokensEdit))]

def semanticTokensDeltaPartialResult : Record := record .semanticTokensDeltaPartialResult [
  required "edits" (.list (.record .semanticTokensEdit))]

/-- A delta has `edits`; full tokens have `data`. -/
def semanticTokensFullDeltaResult : Ty := .oneOf [.record .semanticTokensDelta, .record .semanticTokens]

end LspWire.Schema
