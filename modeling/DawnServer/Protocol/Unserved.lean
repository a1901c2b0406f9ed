import DawnServer.Protocol.Records

/-!
# Requests that are not served

The protocol knows many requests that this server has no answer to.  Their
parameters are still read, so that a malformed request is told from one that is
merely not served.
-/

namespace DawnServer.Shape

def fileParams (file : Shape) : Shape := tuple [needs "files" (.list file)]

def rangeFields : Fields :=
  [needs "textDocument" documentName, needs "range" range]

def color : Shape :=
  tuple [needs "red" .number, needs "green" .number, needs "blue" .number, needs "alpha" .number]

/-- The requests that are known and not served, with the shapes of their parameters. -/
def unservedRequests : List (String × Shape) := [
  ("textDocument/willSaveWaitUntil",
    tuple [needs "textDocument" documentName, needs "reason" int32]),
  ("textDocument/declaration", placeParams),
  ("textDocument/definition", placeParams),
  ("textDocument/typeDefinition", placeParams),
  ("textDocument/implementation", placeParams),
  ("textDocument/references",
    object (placeFields ++ resultFields ++
      [needs "context" (tuple [needs "includeDeclaration" .bool])])),
  ("textDocument/prepareCallHierarchy", object (placeFields ++ progressFields)),
  ("callHierarchy/incomingCalls", object (needs "item" callItem :: resultFields)),
  ("callHierarchy/outgoingCalls", object (needs "item" callItem :: resultFields)),
  ("textDocument/prepareTypeHierarchy", object (placeFields ++ progressFields)),
  ("typeHierarchy/supertypes", object (needs "item" typeItem :: resultFields)),
  ("typeHierarchy/subtypes", object (needs "item" typeItem :: resultFields)),
  ("textDocument/documentHighlight", placeParams),
  ("textDocument/documentLink", documentParams),
  ("documentLink/resolve",
    tuple [needs "range" range, may "target" .uri, may "tooltip" .text, may "data" .any]),
  ("textDocument/hover", object (placeFields ++ progressFields)),
  ("textDocument/codeLens", documentParams),
  ("codeLens/resolve", tuple [needs "range" range, may "command" command, may "data" .any]),
  ("textDocument/foldingRange", documentParams),
  ("textDocument/selectionRange",
    object ([needs "textDocument" documentName, needs "positions" (.list position)] ++
      resultFields)),
  ("textDocument/documentSymbol", documentParams),
  ("textDocument/semanticTokens/full/delta",
    object (resultFields ++ [needs "textDocument" documentName, needs "previousResultId" .text])),
  ("textDocument/semanticTokens/range", object (resultFields ++ rangeFields)),
  ("textDocument/inlineValue",
    object (progressFields ++ rangeFields ++
      [needs "context" (tuple [needs "frameId" int32, needs "stoppedLocation" range])])),
  ("textDocument/inlayHint", object (progressFields ++ rangeFields)),
  ("inlayHint/resolve", inlayHint),
  ("textDocument/moniker", placeParams),
  ("textDocument/signatureHelp",
    object (placeFields ++ progressFields ++ [may "context" (tuple [
      needs "triggerKind" int32,
      may "triggerCharacter" .text,
      needs "isRetrigger" .bool,
      may "activeSignatureHelp" signatureHelp])])),
  ("textDocument/diagnostic",
    object (resultFields ++
      [needs "textDocument" documentName, may "identifier" .text, may "previousResultId" .text])),
  ("workspace/diagnostic",
    object (resultFields ++ [
      may "identifier" .text,
      needs "previousResultIds" (.list (tuple [needs "uri" .uri, needs "value" .text]))])),
  ("textDocument/codeAction",
    object (resultFields ++ rangeFields ++ [needs "context" (tuple [
      needs "diagnostics" (.list diagnostic),
      may "only" (.list .text),
      may "triggerKind" int32])])),
  ("codeAction/resolve", codeAction),
  ("textDocument/documentColor", documentParams),
  ("textDocument/colorPresentation",
    object (resultFields ++ rangeFields ++ [needs "color" color])),
  ("textDocument/formatting",
    object (progressFields ++
      [needs "textDocument" documentName, needs "options" formattingOptions])),
  ("textDocument/rangeFormatting",
    object (progressFields ++ rangeFields ++ [needs "options" formattingOptions])),
  ("textDocument/onTypeFormatting",
    object (placeFields ++ [needs "ch" .text, needs "options" formattingOptions])),
  ("textDocument/rename", object (placeFields ++ progressFields ++ [needs "newName" .text])),
  ("textDocument/prepareRename", tuple placeFields),
  ("textDocument/linkedEditingRange", object (placeFields ++ progressFields)),
  ("workspace/symbol", object (resultFields ++ [needs "query" .text])),
  ("workspaceSymbol/resolve",
    tuple [
      needs "name" .text,
      needs "kind" int32,
      may "tags" (.list int32),
      may "containerName" .text,
      needs "location" (.either location documentName),
      may "data" .any]),
  ("workspace/willCreateFiles", fileParams (tuple [needs "uri" .text])),
  ("workspace/willRenameFiles",
    fileParams (tuple [needs "oldUri" .text, needs "newUri" .text])),
  ("workspace/willDeleteFiles", fileParams (tuple [needs "uri" .text])),
  ("workspace/executeCommand",
    object (progressFields ++ [needs "command" .text, mayGive "arguments" (.list .any)]))]

def unserved? (method : Text) : Option Shape :=
  (unservedRequests.find? fun (name, _) => name.toList = method).map (·.2)

end DawnServer.Shape
