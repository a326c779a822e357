import LspAdapter.Config.LogLevel
import LspAdapter.Message.Basic
/-!
# Messages in the client's log

A logger forwards texts to the client as `window/logMessage` notifications.  A
text that is less grave than its level is dropped before anything is sent, so it
can never fail.
-/

namespace LspAdapter

def logMessage (severity : LogLevel) (text : String) : Notification :=
  ⟨"window/logMessage",
    .object [("message", .text text), ("type", .int severity.number)]⟩

/-- What a logger of a level sends for a text of some severity, if anything. -/
def LogLevel.forward? (level severity : LogLevel) (text : String) : Option Notification :=
  if level.admits severity then some (logMessage severity text) else none

namespace ClientLog

inductive Operation
  | log (severity : LogLevel) (text : String)
  /-- The logger is replaced by one of another level. -/
  | relevel (level : LogLevel)
  | close
  deriving DecidableEq, Repr

structure State where
  level : LogLevel
  connected : Bool
  deriving DecidableEq, Repr

/-- What an operation brings about: the level after it, what reached the
client, and whether it failed. -/
structure Outcome where
  level : LogLevel
  sent : List Notification
  failed : Bool
  deriving Repr, BEq

def State.start (level : LogLevel) : State :=
  ⟨level, true⟩

def State.step (s : State) : Operation → State × Outcome
  | .log severity text =>
    match s.level.forward? severity text with
    | none => (s, ⟨s.level, [], false⟩)
    | some n => if s.connected then (s, ⟨s.level, [n], false⟩) else (s, ⟨s.level, [], true⟩)
  | .relevel level => (⟨level, s.connected⟩, ⟨level, [], false⟩)
  | .close => (⟨s.level, false⟩, ⟨s.level, [], false⟩)

def State.run (s : State) : List Operation → List Outcome
  | [] => []
  | op :: ops =>
    let (s, outcome) := s.step op
    outcome :: s.run ops

end ClientLog

end LspAdapter
