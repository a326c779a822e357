import LspAdapter.Handshake.Capabilities
/-!
# Parameters of the handshake

What a client may say about itself with the request `initialize`.  Only its name
and version matter later; the rest is checked for its types.
-/

namespace LspAdapter.Handshake

open Json (Value)

structure Client where
  name : String
  version : Option String
  deriving DecidableEq, Repr

def clientShape : Shape :=
  ⟨"ClientInfo", [.required "name" .text, .optional "version" .text]⟩

def folderShape : Shape :=
  ⟨"WorkspaceFolder", [.required "uri" .url, .required "name" .text]⟩

def traceNames : List String :=
  ["off", "messages", "verbose"]

/-- All parameters but the token of progress. -/
def paramsShape : Shape :=
  ⟨"InitializeParams",
    [.optional "processId" .natural32,
      .optional "rootPath" .text,
      .optional "rootUri" .url,
      .anything "initializationOptions",
      .required "capabilities" capabilitiesShape.check,
      .optional "trace" (.oneOf traceNames),
      .optional "workspaceFolders" (.sequence folderShape.check),
      .optional "clientInfo" clientShape.check,
      .optional "locale" .text]⟩

def checkToken : Check := fun v =>
  if v.int32?.isSome || v.text?.isSome then .ok () else .error (.noVariant "NumberOrString")

/-- The client that a value names, once the value was checked. -/
def clientOf : Value → Option Client
  | .object fields =>
    ((Json.Fields.get? fields "name").bind Value.text?).map
      (⟨·, (Json.Fields.get? fields "version").bind Value.text?⟩)
  | .array (name :: rest) => name.text?.map (⟨·, rest.head?.bind Value.text?⟩)
  | _ => none

/-- Reads the parameters, an object with its fields in order of their names. The
token of progress is looked at last. -/
def readParams (v : Value) : Except Mismatch (Option Client) := do
  match v with
  | .object fields =>
    paramsShape.check v
    Check.optional checkToken ((Json.Fields.get? fields "workDoneToken").getD .null)
    return (Json.Fields.get? fields "clientInfo").bind clientOf
  | v => .error (.wrongKind v paramsShape.expected)

end LspAdapter.Handshake
