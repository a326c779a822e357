import LspAdapter.Handshake.Capabilities.Kinds
/-!
# What clients can do with text documents
-/

namespace LspAdapter.Handshake.Capabilities

open Json (Value)

/-! ## Documents -/

def synchronization : Shape :=
  ⟨"TextDocumentSyncClientCapabilities",
    ["dynamicRegistration", "willSave", "willSaveWaitUntil", "didSave"].map .flag⟩

def publishDiagnostics : Shape :=
  ⟨"PublishDiagnosticsClientCapabilities",
    [.flag "relatedInformation", tagSupport, .flag "versionSupport",
      .flag "codeDescriptionSupport", .flag "dataSupport"]⟩

def diagnostic : Shape :=
  ⟨"DiagnosticClientCapabilities",
    [.flag "dynamicRegistration", .flag "relatedDocumentSupport"]⟩

/-! ## Completion and help -/

def completionItem : Shape :=
  ⟨"CompletionItemCapability",
    [.flag "snippetSupport",
      .flag "commitCharactersSupport",
      .optional "documentationFormat" markupFormats,
      .flag "deprecatedSupport",
      .flag "preselectSupport",
      tagSupport,
      .flag "insertReplaceSupport",
      .optional "resolveSupport" (resolution "CompletionItemCapabilityResolveSupport").check,
      .optional "insertTextModeSupport"
        (Shape.check ⟨"InsertTextModeSupport",
          [.required "valueSet" (.sequence .integer32)]⟩),
      .flag "labelDetailsSupport"]⟩

def completion : Shape :=
  ⟨"CompletionClientCapabilities",
    [.flag "dynamicRegistration",
      .optional "completionItem" completionItem.check,
      .optional "completionItemKind"
        (knownValues "CompletionItemKindCapability" .integer32).check,
      .flag "contextSupport",
      .optional "insertTextMode" .integer32,
      .optional "completionList"
        (Shape.check ⟨"CompletionListCapability",
          [.optional "itemDefaults" (.sequence .text)]⟩)]⟩

def hover : Shape :=
  ⟨"HoverClientCapabilities",
    [.flag "dynamicRegistration", .optional "contentFormat" markupFormats]⟩

def signatureHelp : Shape :=
  ⟨"SignatureHelpClientCapabilities",
    [.flag "dynamicRegistration",
      .optional "signatureInformation"
        (Shape.check ⟨"SignatureInformationSettings",
          [.optional "documentationFormat" markupFormats,
            .optional "parameterInformation"
              (Shape.check ⟨"ParameterInformationSettings", [.flag "labelOffsetSupport"]⟩),
            .flag "activeParameterSupport"]⟩),
      .flag "contextSupport"]⟩

/-! ## Navigation -/

def documentSymbol : Shape :=
  ⟨"DocumentSymbolClientCapabilities",
    [.flag "dynamicRegistration",
      .optional "symbolKind" symbolKinds.check,
      .flag "hierarchicalDocumentSymbolSupport",
      tagSupport]⟩

def goto : Shape :=
  ⟨"GotoCapability", [.flag "dynamicRegistration", .flag "linkSupport"]⟩

def documentLink : Shape :=
  ⟨"DocumentLinkClientCapabilities", [.flag "dynamicRegistration", .flag "tooltipSupport"]⟩

def selectionRange : Shape :=
  ⟨"SelectionRangeClientCapabilities", [.flag "dynamicRegistration"]⟩

def foldingRange : Shape :=
  ⟨"FoldingRangeClientCapabilities",
    [.flag "dynamicRegistration",
      .optional "rangeLimit" .natural32,
      .flag "lineFoldingOnly",
      .optional "foldingRangeKind"
        (knownValues "FoldingRangeKindCapability"
          (.oneOf ["comment", "imports", "region"])).check,
      .optional "foldingRange"
        (Shape.check ⟨"FoldingRangeCapability", [.flag "collapsedText"]⟩)]⟩

/-! ## Changes -/

def codeAction : Shape :=
  ⟨"CodeActionClientCapabilities",
    [.flag "dynamicRegistration",
      .optional "codeActionLiteralSupport"
        (Shape.check ⟨"CodeActionLiteralSupport",
          [.required "codeActionKind"
            (Shape.check ⟨"CodeActionKindLiteralSupport",
              [.required "valueSet" (.sequence .text)]⟩)]⟩),
      .flag "isPreferredSupport",
      .flag "disabledSupport",
      .flag "dataSupport",
      .optional "resolveSupport" (resolution "CodeActionCapabilityResolveSupport").check,
      .flag "honorsChangeAnnotations"]⟩

def rename : Shape :=
  ⟨"RenameClientCapabilities",
    [.flag "dynamicRegistration",
      .flag "prepareSupport",
      .optional "prepareSupportDefaultBehavior" .integer32,
      .flag "honorsChangeAnnotations"]⟩

/-! ## Colours and hints -/

/-- Whether the tokens of a whole document may be asked for: a boolean, or an
object that may say whether changes to them may be, too. -/
def fullTokens : Check := fun v =>
  let refused : Except Mismatch Unit := .error (.noVariant "SemanticTokensFullOptions")
  match v with
  | .bool _ => .ok ()
  | .object fields =>
    match Json.Fields.get? fields "delta" with
    | none | some .null | some (.bool _) => .ok ()
    | some _ => refused
  | _ => refused

def semanticTokens : Shape :=
  ⟨"SemanticTokensClientCapabilities",
    [.flag "dynamicRegistration",
      .required "requests"
        (Shape.check ⟨"SemanticTokensClientCapabilitiesRequests",
          [.flag "range", .optional "full" fullTokens]⟩),
      .required "tokenTypes" (.sequence .text),
      .required "tokenModifiers" (.sequence .text),
      .required "formats" (.sequence .text),
      .flag "overlappingTokenSupport",
      .flag "multilineTokenSupport",
      .flag "serverCancelSupport",
      .flag "augmentsSyntaxTokens"]⟩

def inlayHint : Shape :=
  ⟨"InlayHintClientCapabilities",
    [.flag "dynamicRegistration",
      .optional "resolveSupport" (resolution "InlayHintResolveClientCapabilities").check]⟩

def textDocument : Shape :=
  ⟨"TextDocumentClientCapabilities",
    [.optional "synchronization" synchronization.check,
      .optional "completion" completion.check,
      .optional "hover" hover.check,
      .optional "signatureHelp" signatureHelp.check,
      .optional "references" registration.check,
      .optional "documentHighlight" registration.check,
      .optional "documentSymbol" documentSymbol.check,
      .optional "formatting" registration.check,
      .optional "rangeFormatting" registration.check,
      .optional "onTypeFormatting" registration.check,
      .optional "declaration" goto.check,
      .optional "definition" goto.check,
      .optional "typeDefinition" goto.check,
      .optional "implementation" goto.check,
      .optional "codeAction" codeAction.check,
      .optional "codeLens" registration.check,
      .optional "documentLink" documentLink.check,
      .optional "colorProvider" registration.check,
      .optional "rename" rename.check,
      .optional "publishDiagnostics" publishDiagnostics.check,
      .optional "foldingRange" foldingRange.check,
      .optional "selectionRange" selectionRange.check,
      .optional "linkedEditingRange" registration.check,
      .optional "callHierarchy" registration.check,
      .optional "semanticTokens" semanticTokens.check,
      .optional "moniker" registration.check,
      .optional "typeHierarchy" registration.check,
      .optional "inlineValue" registration.check,
      .optional "inlayHint" inlayHint.check,
      .optional "diagnostic" diagnostic.check]⟩

end LspAdapter.Handshake.Capabilities
