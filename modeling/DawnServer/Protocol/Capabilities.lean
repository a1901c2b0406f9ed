import DawnServer.Protocol.Records

/-!
# Capabilities of clients

The shape of what a client says about itself when a session starts.
-/

namespace DawnServer.Shape

def registrable (fields : Fields) : Shape :=
  tuple (may "dynamicRegistration" .bool :: fields)

def plainCapability : Shape := registrable []

def jumpCapability : Shape := registrable [may "linkSupport" .bool]

def refreshCapability : Shape := tuple [may "refreshSupport" .bool]

def values (item : Shape) : Shape := tuple [needs "valueSet" (.list item)]

def optionalValues (item : Shape) : Shape := tuple [may "valueSet" (.list item)]

def properties : Shape := tuple [needs "properties" (.list .text)]

/-- Support of tags: a truth value or the tags. -/
def tagSupport : Shape := .either .bool (values int32)

def workspaceCapabilities : Shape :=
  tuple [
    may "applyEdit" .bool,
    may "workspaceEdit" (tuple [
      may "documentChanges" .bool,
      may "resourceOperations" (.list (.word ["create", "rename", "delete"])),
      may "failureHandling" (.word ["abort", "transactional", "textOnlyTransactional", "undo"]),
      may "normalizesLineEndings" .bool,
      may "changeAnnotationSupport" (tuple [may "groupsOnLabel" .bool])]),
    may "didChangeConfiguration" plainCapability,
    may "didChangeWatchedFiles" (registrable [may "relativePatternSupport" .bool]),
    may "symbol" (registrable [
      may "symbolKind" (optionalValues int32),
      mayEnd "tagSupport" tagSupport,
      may "resolveSupport" properties]),
    may "executeCommand" plainCapability,
    may "workspaceFolders" .bool,
    may "configuration" .bool,
    may "semanticTokens" refreshCapability,
    may "codeLens" refreshCapability,
    may "fileOperations" (registrable (flags
      ["didCreate", "willCreate", "didRename", "willRename", "didDelete", "willDelete"])),
    may "inlineValue" refreshCapability,
    may "inlayHint" refreshCapability,
    may "diagnostic" refreshCapability]

def completionCapability : Shape :=
  registrable [
    may "completionItem" (tuple [
      may "snippetSupport" .bool,
      may "commitCharactersSupport" .bool,
      may "documentationFormat" (.list markupKind),
      may "deprecatedSupport" .bool,
      may "preselectSupport" .bool,
      mayEnd "tagSupport" tagSupport,
      may "insertReplaceSupport" .bool,
      may "resolveSupport" properties,
      may "insertTextModeSupport" (values int32),
      may "labelDetailsSupport" .bool]),
    may "completionItemKind" (optionalValues int32),
    may "contextSupport" .bool,
    may "insertTextMode" int32,
    may "completionList" (tuple [may "itemDefaults" (.list .text)])]

def codeActionCapability : Shape :=
  registrable [
    may "codeActionLiteralSupport" (tuple [needs "codeActionKind" (values .text)]),
    may "isPreferredSupport" .bool,
    may "disabledSupport" .bool,
    may "dataSupport" .bool,
    may "resolveSupport" properties,
    may "honorsChangeAnnotations" .bool]

def semanticTokensCapability : Shape :=
  registrable ([
    needs "requests" (tuple [
      may "range" .bool,
      may "full" (.either .bool (object [may "delta" .bool]))]),
    needs "tokenTypes" (.list .text),
    needs "tokenModifiers" (.list .text),
    needs "formats" (.list .text)] ++
    flags ["overlappingTokenSupport", "multilineTokenSupport", "serverCancelSupport",
      "augmentsSyntaxTokens"])

def documentCapabilities : Shape :=
  tuple [
    may "synchronization" (registrable (flags ["willSave", "willSaveWaitUntil", "didSave"])),
    may "completion" completionCapability,
    may "hover" (registrable [may "contentFormat" (.list markupKind)]),
    may "signatureHelp" (registrable [
      may "signatureInformation" (tuple [
        may "documentationFormat" (.list markupKind),
        may "parameterInformation" (tuple [may "labelOffsetSupport" .bool]),
        may "activeParameterSupport" .bool]),
      may "contextSupport" .bool]),
    may "references" plainCapability,
    may "documentHighlight" plainCapability,
    may "documentSymbol" (registrable [
      may "symbolKind" (optionalValues int32),
      may "hierarchicalDocumentSymbolSupport" .bool,
      mayEnd "tagSupport" tagSupport]),
    may "formatting" plainCapability,
    may "rangeFormatting" plainCapability,
    may "onTypeFormatting" plainCapability,
    may "declaration" jumpCapability,
    may "definition" jumpCapability,
    may "typeDefinition" jumpCapability,
    may "implementation" jumpCapability,
    may "codeAction" codeActionCapability,
    may "codeLens" plainCapability,
    may "documentLink" (registrable [may "tooltipSupport" .bool]),
    may "colorProvider" plainCapability,
    may "rename" (registrable [
      may "prepareSupport" .bool,
      may "prepareSupportDefaultBehavior" int32,
      may "honorsChangeAnnotations" .bool]),
    may "publishDiagnostics" (tuple [
      may "relatedInformation" .bool,
      mayEnd "tagSupport" tagSupport,
      may "versionSupport" .bool,
      may "codeDescriptionSupport" .bool,
      may "dataSupport" .bool]),
    may "foldingRange" (registrable [
      may "rangeLimit" nat32,
      may "lineFoldingOnly" .bool,
      may "foldingRangeKind" (optionalValues (.word ["comment", "imports", "region"])),
      may "foldingRange" (tuple [may "collapsedText" .bool])]),
    may "selectionRange" plainCapability,
    may "linkedEditingRange" plainCapability,
    may "callHierarchy" plainCapability,
    may "semanticTokens" semanticTokensCapability,
    may "moniker" plainCapability,
    may "typeHierarchy" plainCapability,
    may "inlineValue" plainCapability,
    may "inlayHint" (registrable [may "resolveSupport" properties]),
    may "diagnostic" (registrable [may "relatedDocumentSupport" .bool])]

def windowCapabilities : Shape :=
  tuple [
    may "workDoneProgress" .bool,
    may "showMessage" (tuple [
      may "messageActionItem" (tuple [may "additionalPropertiesSupport" .bool])]),
    may "showDocument" (tuple [needs "support" .bool])]

def generalCapabilities : Shape :=
  tuple [
    may "regularExpressions" (tuple [needs "engine" .text, may "version" .text]),
    may "markdown" (tuple [
      needs "parser" .text, may "version" .text, may "allowedTags" (.list .text)]),
    may "staleRequestSupport" (tuple [
      needs "cancel" .bool, needs "retryOnContentModified" (.list .text)]),
    may "positionEncodings" (.list .text)]

def clientCapabilities : Shape :=
  tuple [
    may "workspace" workspaceCapabilities,
    may "textDocument" documentCapabilities,
    may "window" windowCapabilities,
    may "general" generalCapabilities,
    may "experimental" .any]

def startParams : Shape :=
  tuple [
    may "processId" nat32,
    may "rootPath" .text,
    mayEnd "rootUri" .uri,
    may "initializationOptions" .any,
    needs "capabilities" clientCapabilities,
    mayEnd "trace" (.word ["off", "messages", "verbose"]),
    may "workspaceFolders" (.list (tuple [needs "uri" .uri, needs "name" .text])),
    may "clientInfo" (tuple [needs "name" .text, may "version" .text]),
    may "locale" .text]

end DawnServer.Shape
