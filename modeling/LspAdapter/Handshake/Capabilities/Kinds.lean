import LspAdapter.Handshake.Shape
/-!
# Kinds of things that clients support

Parts that the capabilities for several features share.
-/

namespace LspAdapter.Handshake.Capabilities

open Json (Value)

/-- A feature that can be registered later. -/
def registration : Shape :=
  ⟨"DynamicRegistrationClientCapabilities", [.flag "dynamicRegistration"]⟩

/-- A record whose only field says whether the client can refresh a view. -/
def refresh (name : String) : Shape :=
  ⟨name, [.flag "refreshSupport"]⟩

/-- A record of the properties that the client can ask for later. -/
def resolution (name : String) : Shape :=
  ⟨name, [.required "properties" (.sequence .text)]⟩

def knownValues (name : String) (check : Check) : Shape :=
  ⟨name, [.optional "valueSet" (.sequence check)]⟩

def symbolKinds : Shape :=
  knownValues "SymbolKindCapability" .integer32

def markupFormats : Check :=
  .sequence (.oneOf ["plaintext", "markdown"])

def tags : Shape :=
  ⟨"TagSupport", [.required "valueSet" (.sequence .integer32)]⟩

/-- The field with the tags that the client knows. A boolean will do, too. -/
def tagSupport : Field :=
  ⟨"tagSupport", .preset, fun v =>
    match v with
    | .null | .bool _ => .ok ()
    | v => tags.check v⟩

end LspAdapter.Handshake.Capabilities
