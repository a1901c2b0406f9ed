import DawnServer.Protocol.Shape

/-!
# Records of the protocol

The shapes of the records that messages are made of, small ones first.
-/

namespace DawnServer.Shape

def flags (names : List String) : Fields := names.map fun name => may name .bool

def position : Shape := tuple [needs "line" nat32, needs "character" nat32]

def range : Shape := tuple [needs "start" position, needs "end" position]

def location : Shape := tuple [needs "uri" .uri, needs "range" range]

def documentName : Shape := tuple [needs "uri" .uri]

def versionedDocument : Shape := tuple [needs "uri" .uri, may "version" int32]

def numberOrText : Shape := .either int32 .text

def progressFields : Fields := [may "workDoneToken" numberOrText]

def resultFields : Fields :=
  progressFields ++ [may "partialResultToken" numberOrText]

def placeFields : Fields :=
  [needs "textDocument" documentName, needs "position" position]

def markupKind : Shape := .word ["plaintext", "markdown"]

def documentation : Shape :=
  .either .text (tuple [needs "kind" markupKind, needs "value" .text])

def textEdit : Shape := tuple [needs "range" range, needs "newText" .text]

def command : Shape :=
  tuple [needs "title" .text, needs "command" .text, may "arguments" (.list .any)]

def completionItem : Shape :=
  tuple [
    needs "label" .text,
    may "labelDetails" (tuple [may "detail" .text, may "description" .text]),
    may "kind" int32,
    may "detail" .text,
    may "documentation" documentation,
    may "deprecated" .bool,
    may "preselect" .bool,
    may "sortText" .text,
    may "filterText" .text,
    may "insertText" .text,
    may "insertTextFormat" int32,
    may "insertTextMode" int32,
    may "textEdit" (.either textEdit
      (tuple [needs "newText" .text, needs "insert" range, needs "replace" range])),
    may "additionalTextEdits" (.list textEdit),
    may "command" command,
    may "commitCharacters" (.list .text),
    may "data" .any,
    may "tags" (.list int32)]

def completionParams : Shape :=
  object (placeFields ++ resultFields ++
    [may "context" (tuple [needs "triggerKind" int32, may "triggerCharacter" .text])])

def documentParams : Shape := object (resultFields ++ [needs "textDocument" documentName])

def placeParams : Shape := object (placeFields ++ resultFields)

def diagnostic : Shape :=
  tuple [
    needs "range" range,
    may "severity" int32,
    may "code" numberOrText,
    may "codeDescription" (tuple [needs "href" .uri]),
    may "source" .text,
    needs "message" .text,
    may "relatedInformation"
      (.list (tuple [needs "location" location, needs "message" .text])),
    may "tags" (.list int32),
    may "data" .any]

def callItem : Shape :=
  tuple [
    needs "name" .text,
    needs "kind" int32,
    may "tags" (.list int32),
    may "detail" .text,
    needs "uri" .uri,
    needs "range" range,
    needs "selectionRange" range,
    may "data" .any]

def typeItem : Shape :=
  tuple [
    needs "name" .text,
    needs "kind" int32,
    may "tags" int32,
    may "detail" .text,
    needs "uri" .uri,
    needs "range" range,
    needs "selectionRange" range,
    may "data" .any]

/-- How a document is to be laid out.  Options of any other name have plain values. -/
def formattingOptions : Shape :=
  .extended
    ([needs "tabSize" nat32, needs "insertSpaces" .bool] ++
      flags ["trimTrailingWhitespace", "insertFinalNewline", "trimFinalNewlines"])
    (.either .bool numberOrText)

def documentEdit : Shape :=
  tuple [needs "textDocument" versionedDocument, needs "edits" (.list textEdit)]

def fileOperation : Shape :=
  let options := tuple (flags ["overwrite", "ignoreIfExists"])
  .tagged "kind" [
    ("create", tuple [needs "uri" .uri, may "options" options, may "annotationId" .text]),
    ("rename", tuple [
      needs "oldUri" .uri, needs "newUri" .uri, may "options" options, may "annotationId" .text]),
    ("delete", tuple [
      needs "uri" .uri,
      may "options" (tuple (flags ["recursive", "ignoreIfNotExists"] ++
        [may "annotationId" .text]))])]

def changeAnnotation : Shape :=
  tuple [needs "label" .text, may "needsConfirmation" .bool, may "description" .text]

def workspaceEdit : Shape :=
  tuple [
    mayEnd "changes" (.map .uri (.list textEdit)),
    may "documentChanges" (.list (.either fileOperation documentEdit)),
    may "changeAnnotations" (.map .text changeAnnotation)]

def signatureHelp : Shape :=
  let parameter :=
    tuple [needs "label" (.either .text (.pair nat32)), may "documentation" documentation]
  let signature :=
    tuple [
      needs "label" .text,
      may "documentation" documentation,
      may "parameters" (.list parameter),
      may "activeParameter" nat32]
  tuple [
    needs "signatures" (.list signature),
    may "activeSignature" nat32,
    may "activeParameter" nat32]

def codeAction : Shape :=
  tuple [
    needs "title" .text,
    may "kind" .text,
    may "diagnostics" (.list diagnostic),
    may "edit" workspaceEdit,
    may "command" command,
    may "isPreferred" .bool,
    may "disabled" (tuple [needs "reason" .text]),
    may "data" .any]

def inlayHint : Shape :=
  let part :=
    tuple [needs "value" .text, may "tooltip" documentation, may "location" location,
      may "command" command]
  tuple [
    needs "position" position,
    needs "label" (.either .text (.list part)),
    may "kind" int32,
    may "textEdits" (.list textEdit),
    may "tooltip" documentation,
    may "paddingLeft" .bool,
    may "paddingRight" .bool,
    may "data" .any]

end DawnServer.Shape
