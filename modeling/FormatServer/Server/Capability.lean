import FormatServer.Server.Shape

/-!
The capabilities that a client tells of itself, as the protocol shapes them. The server needs few of
them, but a client that tells any of them wrongly is not understood.
-/

namespace FormatServer.Shape

/-- What can be registered while the server runs. -/
def registrable : Shape :=
  record (flags ["dynamicRegistration"])

/-- What the server may ask the client to compute anew. -/
def refreshable : Shape :=
  record (flags ["refreshSupport"])

/-- What can be filled in later, property by property. -/
def resolvable : Shape :=
  record [required "properties" texts]

/-- The values of a kind that a client knows. -/
def knownValues (presence : Presence) (item : Shape) : Shape :=
  record [("valueSet", presence, list item)]

/-- The tags that a client knows, or whether it knows any. -/
def tags : Shape :=
  either flag (knownValues .required signed)

def markup : Shape :=
  choice ["plaintext", "markdown"]

/-! ### The workspace -/

def workspaceEdit : Shape :=
  record [
    optional "documentChanges" flag,
    optional "resourceOperations" (list (choice ["create", "rename", "delete"])),
    optional "failureHandling"
      (choice ["abort", "transactional", "textOnlyTransactional", "undo"]),
    optional "normalizesLineEndings" flag,
    optional "changeAnnotationSupport" (record (flags ["groupsOnLabel"]))]

def workspaceSymbol : Shape :=
  record [
    optional "dynamicRegistration" flag,
    optional "symbolKind" (knownValues .optional signed),
    defaulted "tagSupport" tags,
    optional "resolveSupport" resolvable]

def fileOperations : Shape :=
  record (flags ["dynamicRegistration", "didCreate", "willCreate", "didRename", "willRename",
    "didDelete", "willDelete"])

def workspace : Shape :=
  record [
    optional "applyEdit" flag,
    optional "workspaceEdit" workspaceEdit,
    optional "didChangeConfiguration" registrable,
    optional "didChangeWatchedFiles"
      (record (flags ["dynamicRegistration", "relativePatternSupport"])),
    optional "symbol" workspaceSymbol,
    optional "executeCommand" registrable,
    optional "workspaceFolders" flag,
    optional "configuration" flag,
    optional "semanticTokens" refreshable,
    optional "codeLens" refreshable,
    optional "fileOperations" fileOperations,
    optional "inlineValue" refreshable,
    optional "inlayHint" refreshable,
    optional "diagnostic" refreshable]

/-! ### Documents -/

def completionItem : Shape :=
  record [
    optional "snippetSupport" flag,
    optional "commitCharactersSupport" flag,
    optional "documentationFormat" (list markup),
    optional "deprecatedSupport" flag,
    optional "preselectSupport" flag,
    defaulted "tagSupport" tags,
    optional "insertReplaceSupport" flag,
    optional "resolveSupport" resolvable,
    optional "insertTextModeSupport" (knownValues .required signed),
    optional "labelDetailsSupport" flag]

def completion : Shape :=
  record [
    optional "dynamicRegistration" flag,
    optional "completionItem" completionItem,
    optional "completionItemKind" (knownValues .optional signed),
    optional "contextSupport" flag,
    optional "insertTextMode" signed,
    optional "completionList" (record [optional "itemDefaults" texts])]

def hover : Shape :=
  record [optional "dynamicRegistration" flag, optional "contentFormat" (list markup)]

def signatureHelp : Shape :=
  record [
    optional "dynamicRegistration" flag,
    optional "signatureInformation" (record [
      optional "documentationFormat" (list markup),
      optional "parameterInformation" (record (flags ["labelOffsetSupport"])),
      optional "activeParameterSupport" flag]),
    optional "contextSupport" flag]

def documentSymbol : Shape :=
  record [
    optional "dynamicRegistration" flag,
    optional "symbolKind" (knownValues .optional signed),
    optional "hierarchicalDocumentSymbolSupport" flag,
    defaulted "tagSupport" tags]

/-- A request for the place where something is declared. -/
def declaration : Shape :=
  record (flags ["dynamicRegistration", "linkSupport"])

def codeAction : Shape :=
  record [
    optional "dynamicRegistration" flag,
    optional "codeActionLiteralSupport"
      (record [required "codeActionKind" (knownValues .required text)]),
    optional "isPreferredSupport" flag,
    optional "disabledSupport" flag,
    optional "dataSupport" flag,
    optional "resolveSupport" resolvable,
    optional "honorsChangeAnnotations" flag]

def rename : Shape :=
  record [
    optional "dynamicRegistration" flag,
    optional "prepareSupport" flag,
    optional "prepareSupportDefaultBehavior" signed,
    optional "honorsChangeAnnotations" flag]

def publishDiagnostics : Shape :=
  record [
    optional "relatedInformation" flag,
    defaulted "tagSupport" tags,
    optional "versionSupport" flag,
    optional "codeDescriptionSupport" flag,
    optional "dataSupport" flag]

def foldingRange : Shape :=
  record [
    optional "dynamicRegistration" flag,
    optional "rangeLimit" word,
    optional "lineFoldingOnly" flag,
    optional "foldingRangeKind" (knownValues .optional (choice ["comment", "imports", "region"])),
    optional "foldingRange" (record (flags ["collapsedText"]))]

def semanticTokens : Shape :=
  record [
    optional "dynamicRegistration" flag,
    required "requests" (record [
      optional "range" flag,
      optional "full" (either flag (named (flags ["delta"]) anything))]),
    required "tokenTypes" texts,
    required "tokenModifiers" texts,
    required "formats" texts,
    optional "overlappingTokenSupport" flag,
    optional "multilineTokenSupport" flag,
    optional "serverCancelSupport" flag,
    optional "augmentsSyntaxTokens" flag]

def textDocument : Shape :=
  record [
    optional "synchronization"
      (record (flags ["dynamicRegistration", "willSave", "willSaveWaitUntil", "didSave"])),
    optional "completion" completion,
    optional "hover" hover,
    optional "signatureHelp" signatureHelp,
    optional "references" registrable,
    optional "documentHighlight" registrable,
    optional "documentSymbol" documentSymbol,
    optional "formatting" registrable,
    optional "rangeFormatting" registrable,
    optional "onTypeFormatting" registrable,
    optional "declaration" declaration,
    optional "definition" declaration,
    optional "typeDefinition" declaration,
    optional "implementation" declaration,
    optional "codeAction" codeAction,
    optional "codeLens" registrable,
    optional "documentLink" (record (flags ["dynamicRegistration", "tooltipSupport"])),
    optional "colorProvider" registrable,
    optional "rename" rename,
    optional "publishDiagnostics" publishDiagnostics,
    optional "foldingRange" foldingRange,
    optional "selectionRange" registrable,
    optional "linkedEditingRange" registrable,
    optional "callHierarchy" registrable,
    optional "semanticTokens" semanticTokens,
    optional "moniker" registrable,
    optional "typeHierarchy" registrable,
    optional "inlineValue" registrable,
    optional "inlayHint"
      (record [optional "dynamicRegistration" flag, optional "resolveSupport" resolvable]),
    optional "diagnostic" (record (flags ["dynamicRegistration", "relatedDocumentSupport"])),
    optional "inlineCompletion" registrable]

def notebookDocument : Shape :=
  record [required "synchronization"
    (record (flags ["dynamicRegistration", "executionSummaryReport"]))]

/-! ### The window and the client as a whole -/

def window : Shape :=
  record [
    optional "workDoneProgress" flag,
    optional "showMessage" (record [optional "messageActionItem"
      (record (flags ["additionalPropertiesSupport"]))]),
    optional "showDocument" (record [required "support" flag])]

def general : Shape :=
  record [
    optional "regularExpressions" (record [required "engine" text, optional "version" text]),
    optional "markdown"
      (record [required "parser" text, optional "version" text, optional "allowedTags" texts]),
    optional "staleRequestSupport"
      (record [required "cancel" flag, required "retryOnContentModified" texts]),
    optional "positionEncodings" texts]

/-- All that a client tells of what it can do. -/
def capabilities : Shape :=
  record [
    optional "workspace" workspace,
    optional "textDocument" textDocument,
    optional "notebookDocument" notebookDocument,
    optional "window" window,
    optional "general" general,
    optional "offsetEncoding" texts,
    optional "experimental" anything]

end FormatServer.Shape
