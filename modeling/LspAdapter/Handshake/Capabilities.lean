import LspAdapter.Handshake.Capabilities.TextDocument
import LspAdapter.Handshake.Capabilities.Window
import LspAdapter.Handshake.Capabilities.Workspace
/-!
# Capabilities of clients

What a client may say that it can do.  Nothing of it matters later, yet all of
it must have the right types.
-/

namespace LspAdapter.Handshake

def capabilitiesShape : Shape :=
  ⟨"ClientCapabilities",
    [.optional "workspace" Capabilities.workspace.check,
      .optional "textDocument" Capabilities.textDocument.check,
      .optional "window" Capabilities.window.check,
      .optional "general" Capabilities.general.check,
      .anything "experimental"]⟩

end LspAdapter.Handshake
