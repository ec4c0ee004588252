import LspWire.Schema.Record
import LspWire.Records.Location
import LspWire.Records.Registration

/-!
# Workspace folders, configuration, watched files and commands
-/

namespace LspWire.Schema

/-- Workspace folder support advertised by the server. -/
def workspaceFoldersServerCapabilities : Record := record .workspaceFoldersServerCapabilities [
  optional "supported" .bool,
  optional "changeNotifications" (.oneOf [.str, .bool])]

/-- The workspace folder change event. -/
def workspaceFoldersChangeEvent : Record := record .workspaceFoldersChangeEvent [
  required "added" (.list (.record .workspaceFolder)),
  required "removed" (.list (.record .workspaceFolder))]

def didChangeWorkspaceFoldersParams : Record := record .didChangeWorkspaceFoldersParams [
  required "event" (.record .workspaceFoldersChangeEvent)]

/-- A configuration item. -/
def configurationItem : Record := record .configurationItem [optional "scopeUri" .uri, optional "section" .str]

def configurationParams : Record := record .configurationParams [
  required "items" (.list (.record .configurationItem))]

/-- Parameters of the `workspace/didChangeConfiguration` notification. -/
def didChangeConfigurationParams : Record := record .didChangeConfigurationParams [
  nullable (required "settings" .any)]

/-- An event describing a file change. -/
def fileEvent : Record := record .fileEvent [required "uri" .uri, required "type" (.intEnum .fileChangeType)]

def didChangeWatchedFilesParams : Record := record .didChangeWatchedFilesParams [
  required "changes" (.list (.record .fileEvent))]

/-- A glob pattern and the file events to watch it for. -/
def fileSystemWatcher : Record := record .fileSystemWatcher [
  required "globPattern" globPattern,
  optional "kind" .watchKind]

/-- Describe options to be used when registering for file system change events. -/
def didChangeWatchedFilesRegistrationOptions : Record := record .didChangeWatchedFilesRegistrationOptions [
  required "watchers" (.list (.record .fileSystemWatcher))]

/-- Client capabilities for `workspace/didChangeWatchedFiles`. -/
def didChangeWatchedFilesClientCapabilities : Record := record .didChangeWatchedFilesClientCapabilities [
  optional "dynamicRegistration" .bool,
  optional "relativePatternSupport" .bool]

def executeCommandClientCapabilities : Record := record .executeCommandClientCapabilities [
  optional "dynamicRegistration" .bool]

/-- The commands a server can execute. -/
def executeCommandOptions : Record := extend .executeCommandOptions [workDoneProgressOptions] [
  required "commands" (.list .str)]

def executeCommandRegistrationOptions : Record := extend .executeCommandRegistrationOptions [executeCommandOptions] []

/-- Parameters of the `workspace/executeCommand` request. -/
def executeCommandParams : Record := extend .executeCommandParams [workDoneProgressParams] [
  required "command" .str,
  optional "arguments" (.list .any)]

def fileOperationPatternOptions : Record := record .fileOperationPatternOptions [optional "ignoreCase" .bool]

/-- A pattern to describe in which file operation requests or notifications the server is interested. -/
def fileOperationPattern : Record := record .fileOperationPattern [
  required "glob" .str,
  optional "matches" (.closedEnum .fileOperationPatternKind),
  optional "options" (.record .fileOperationPatternOptions)]

def fileOperationFilter : Record := record .fileOperationFilter [
  optional "scheme" .str,
  required "pattern" (.record .fileOperationPattern)]

def fileOperationRegistrationOptions : Record := record .fileOperationRegistrationOptions [
  required "filters" (.list (.record .fileOperationFilter))]

/-- The server is interested in file notifications/requests. -/
def workspaceFileOperationsServerCapabilities : Record := record .workspaceFileOperationsServerCapabilities [
  optional "didCreate" (.record .fileOperationRegistrationOptions),
  optional "willCreate" (.record .fileOperationRegistrationOptions),
  optional "didRename" (.record .fileOperationRegistrationOptions),
  optional "willRename" (.record .fileOperationRegistrationOptions),
  optional "didDelete" (.record .fileOperationRegistrationOptions),
  optional "willDelete" (.record .fileOperationRegistrationOptions)]

def workspaceFileOperationsClientCapabilities : Record := record .workspaceFileOperationsClientCapabilities [
  optional "dynamicRegistration" .bool,
  optional "didCreate" .bool,
  optional "willCreate" .bool,
  optional "didRename" .bool,
  optional "willRename" .bool,
  optional "didDelete" .bool,
  optional "willDelete" .bool]

/-- Information on a file/folder create. -/
def fileCreate : Record := record .fileCreate [required "uri" .str]

def createFilesParams : Record := record .createFilesParams [required "files" (.list (.record .fileCreate))]

/-- Information on a file/folder rename. -/
def fileRename : Record := record .fileRename [required "oldUri" .str, required "newUri" .str]

def renameFilesParams : Record := record .renameFilesParams [required "files" (.list (.record .fileRename))]

def fileDelete : Record := record .fileDelete [required "uri" .str]

def deleteFilesParams : Record := record .deleteFilesParams [required "files" (.list (.record .fileDelete))]

/-- Whether the client supports a server-initiated `workspace/*/refresh` request. -/
def refreshClientCapabilities : Record := record .refreshClientCapabilities [optional "refreshSupport" .bool]

end LspWire.Schema
