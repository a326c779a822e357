import LspAdapter.Handshake.Capabilities.Kinds
/-!
# What clients can do with workspaces
-/

namespace LspAdapter.Handshake.Capabilities

def workspaceEdit : Shape :=
  ⟨"WorkspaceEditClientCapabilities",
    [.flag "documentChanges",
      .optional "resourceOperations" (.sequence (.oneOf ["create", "rename", "delete"])),
      .optional "failureHandling"
        (.oneOf ["abort", "transactional", "textOnlyTransactional", "undo"]),
      .flag "normalizesLineEndings",
      .optional "changeAnnotationSupport"
        (Shape.check ⟨"ChangeAnnotationWorkspaceEditClientCapabilities",
          [.flag "groupsOnLabel"]⟩)]⟩

def watchedFiles : Shape :=
  ⟨"DidChangeWatchedFilesClientCapabilities",
    [.flag "dynamicRegistration", .flag "relativePatternSupport"]⟩

def workspaceSymbol : Shape :=
  ⟨"WorkspaceSymbolClientCapabilities",
    [.flag "dynamicRegistration",
      .optional "symbolKind" symbolKinds.check,
      tagSupport,
      .optional "resolveSupport"
        (resolution "WorkspaceSymbolResolveSupportCapability").check]⟩

def fileOperations : Shape :=
  ⟨"WorkspaceFileOperationsClientCapabilities",
    ["dynamicRegistration", "didCreate", "willCreate", "didRename", "willRename", "didDelete",
      "willDelete"].map .flag⟩

def workspace : Shape :=
  ⟨"WorkspaceClientCapabilities",
    [.flag "applyEdit",
      .optional "workspaceEdit" workspaceEdit.check,
      .optional "didChangeConfiguration" registration.check,
      .optional "didChangeWatchedFiles" watchedFiles.check,
      .optional "symbol" workspaceSymbol.check,
      .optional "executeCommand" registration.check,
      .flag "workspaceFolders",
      .flag "configuration",
      .optional "semanticTokens" (refresh "SemanticTokensWorkspaceClientCapabilities").check,
      .optional "codeLens" (refresh "CodeLensWorkspaceClientCapabilities").check,
      .optional "fileOperations" fileOperations.check,
      .optional "inlineValue" (refresh "InlineValueWorkspaceClientCapabilities").check,
      .optional "inlayHint" (refresh "InlayHintWorkspaceClientCapabilities").check,
      .optional "diagnostic" (refresh "DiagnosticWorkspaceClientCapabilities").check]⟩

end LspAdapter.Handshake.Capabilities
