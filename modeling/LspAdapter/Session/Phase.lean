import LspAdapter.ClientLog
import LspAdapter.Config.Settings
import LspAdapter.Handshake.Params
import LspAdapter.Message.Outline
import LspAdapter.Session.Action
/-!
# Phases of a session

A session waits for `initialize`, then for `initialized`, then serves requests,
and after `shutdown` waits for `exit`.  Each phase says what a message brings
about, and what it means that the client disconnects.

Time is not modelled: no wait ends because it is long.  The wait for `exit` has a
limit of 30 seconds in the program, and what follows its end is left out.
-/

namespace LspAdapter.Session

open Journal (Record)

inductive Breach
  /-- The client disconnected during the handshake. -/
  | disconnected
  | notInitialize (m : Message)
  | notInitialized (m : Message)
  | notExit (m : Message)
  /-- The client disconnected after `shutdown`. -/
  | noExit
  deriving Repr

inductive Failure
  | breach (b : Breach)
  | badParams (m : Handshake.Mismatch)
  | sendFailed
  /-- A message of the handshake could not be sent. -/
  | crashed
  deriving Repr

inductive Ending
  | finished
  | failed (f : Failure)
  deriving Repr

def Ending.isFinished : Ending → Bool
  | .finished => true
  | .failed _ => false

def Breach.message : Breach → String
  | .disconnected => "disconnected channel"
  | .notInitialize m => "expected initialize request, got " ++ m.outline
  | .notInitialized m => "expected initialized notification, got: " ++ m.outline
  | .notExit m => "unexpected message during shutdown: " ++ m.outline
  | .noExit => "channel disconnected waiting for exit notification"

def Failure.message : Failure → String
  | .breach b => b.message
  | .badParams m => m.message
  | .sendFailed => "sending on a disconnected channel"
  | .crashed => "called `Result::unwrap()` on an `Err` value: \"SendError(..)\""

inductive Phase
  | awaitingInitialize
  | awaitingInitialized
  | serving
  | awaitingExit
  | ended (e : Ending)
  deriving Repr

def Phase.isEnded : Phase → Bool
  | .ended _ => true
  | _ => false

/-- What a message brings about: actions, and the phase once they are done. -/
structure Reaction where
  actions : List Action
  next : Phase

def Reaction.fail (f : Failure) : Reaction :=
  ⟨[], .ended (.failed f)⟩

/-! ## What is recorded and sent -/

def note (severity : Journal.Severity) (text : String) : Action :=
  .record ⟨severity, .connection, text⟩

def clientRecord (c : Handshake.Client) : Action :=
  .record ⟨.info, .handshake, "client: " ++ c.name ++ " " ++ c.version.getD ""⟩

def notInitializedCode : Int32 := -32002

def methodNotFoundCode : Int32 := -32601

def notInitialized (r : Request) : Response :=
  .failure r.id notInitializedCode ("expected initialize request, got " ++ r.outline)

def methodNotFound (r : Request) : Response :=
  .failure r.id methodNotFoundCode ("method not found: " ++ r.method)

def serverDescription : Json.Value :=
  .object [
    ("capabilities", .object [("positionEncoding", .text "utf-16")]),
    ("serverInfo", .object [
      ("name", .text "typescript_language_server"),
      ("version", .text "0.1.0")])]

def announcements (s : Settings) : List String :=
  ["Using tsserver from: " ++ s.tsserverPath.getD "automatic discovery",
    "tsserver log verbosity: " ++ s.verbosity.name]

def logTo (s : Settings) (severity : LogLevel) (text : String) : List Action :=
  (s.messageLevel.forward? severity text).toList.map fun n => .send (.notification n) .report

/-! ## Reactions -/

def opening : List Action :=
  [note .info "initialize..."]

def initializeReaction (r : Request) : Reaction :=
  match Handshake.readParams r.params with
  | .error m => .fail (.badParams m)
  | .ok client =>
    ⟨client.toList.map clientRecord ++
      [.send (.response (.ok r.id serverDescription)) .crash], .awaitingInitialized⟩

def serve (r : Request) : Reaction :=
  if r.method = "shutdown" then
    ⟨[.send (.response (.ok r.id .null)) .ignore], .awaitingExit⟩
  else
    ⟨[note .debug ("unhandled request " ++ r.method ++ " (" ++ r.id.outline ++ ")"),
      .send (.response (methodNotFound r)) .report], .serving⟩

def Phase.react (s : Settings) (p : Phase) (m : Message) : Reaction :=
  match p with
  | .awaitingInitialize =>
    match m with
    | .request r =>
      if r.method = "initialize" then initializeReaction r
      else ⟨[.send (.response (notInitialized r)) .crash], .awaitingInitialize⟩
    | .notification _ =>
      if m.isExit then .fail (.breach (.notInitialize m)) else ⟨[], .awaitingInitialize⟩
    | .response _ => .fail (.breach (.notInitialize m))
  | .awaitingInitialized =>
    if m.isInitialized then
      ⟨(announcements s).flatMap (logTo s .info) ++ [note .info "starting lsp"], .serving⟩
    else .fail (.breach (.notInitialized m))
  | .serving =>
    match m with
    | .request r => serve r
    | .response r => ⟨[note .debug ("ignoring response " ++ r.id.outline)], .serving⟩
    | .notification n =>
      if m.isExit then ⟨[note .warn "exit without shutdown"], .ended .finished⟩
      else ⟨[note .debug ("ignoring notification " ++ n.method)], .serving⟩
  | .awaitingExit =>
    if m.isExit then ⟨[note .info "shutdown"], .ended .finished⟩
    else .fail (.breach (.notExit m))
  | .ended e => ⟨[], .ended e⟩

/-- How a session ends when the client disconnects. -/
def Phase.disconnect : Phase → Ending
  | .awaitingInitialize | .awaitingInitialized => .failed (.breach .disconnected)
  | .serving => .finished
  | .awaitingExit => .failed (.breach .noExit)
  | .ended e => e

end LspAdapter.Session
