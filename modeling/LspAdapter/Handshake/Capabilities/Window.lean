import LspAdapter.Handshake.Capabilities.Kinds
/-!
# What clients can do with their window and in general
-/

namespace LspAdapter.Handshake.Capabilities

def showMessage : Shape :=
  ⟨"ShowMessageRequestClientCapabilities",
    [.optional "messageActionItem"
      (Shape.check ⟨"MessageActionItemCapabilities",
        [.flag "additionalPropertiesSupport"]⟩)]⟩

def showDocument : Shape :=
  ⟨"ShowDocumentClientCapabilities", [.required "support" .boolean]⟩

def window : Shape :=
  ⟨"WindowClientCapabilities",
    [.flag "workDoneProgress",
      .optional "showMessage" showMessage.check,
      .optional "showDocument" showDocument.check]⟩

def regularExpressions : Shape :=
  ⟨"RegularExpressionsClientCapabilities",
    [.required "engine" .text, .optional "version" .text]⟩

def markdown : Shape :=
  ⟨"MarkdownClientCapabilities",
    [.required "parser" .text, .optional "version" .text,
      .optional "allowedTags" (.sequence .text)]⟩

def staleRequests : Shape :=
  ⟨"StaleRequestSupportClientCapabilities",
    [.required "cancel" .boolean, .required "retryOnContentModified" (.sequence .text)]⟩

def general : Shape :=
  ⟨"GeneralClientCapabilities",
    [.optional "regularExpressions" regularExpressions.check,
      .optional "markdown" markdown.check,
      .optional "staleRequestSupport" staleRequests.check,
      .optional "positionEncodings" (.sequence .text)]⟩

end LspAdapter.Handshake.Capabilities
