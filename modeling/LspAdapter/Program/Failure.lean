import LspAdapter.Framing.Fault
import LspAdapter.Session.Phase
/-!
# Failures of a run

Why a run fails once its command line was accepted, and the form in which that
is told on the error channel.
-/

namespace LspAdapter.Program

open Diagnostic (custom located quoted tagged)

inductive Failure
  | noChannel
  | session (f : Session.Failure)
  /-- The input could not be read to its end. -/
  | input (f : Framing.Fault)
  /-- A message was read that the session no longer took. -/
  | undelivered

/-- Whether a failure is a crash: a send that had to succeed failed, or the
reader did not survive. -/
def Failure.isCrash : Failure → Bool
  | .session .crashed => true
  | .input .excessiveLength => true
  | _ => false

def Failure.noChannelMessage : String :=
  "`--stdio` is required"

/-- The form in which a diagnostic shows a failure. A breach also tells whether
it is that the client left during the handshake. -/
def Failure.outline : Failure → String
  | .noChannel => quoted noChannelMessage
  | .session (.breach b) =>
    let early := match b with
      | .disconnected => true
      | _ => false
    tagged "ProtocolError" (quoted b.message ++ ", " ++ toString early)
  | .session (.badParams m) => located m.message 0 0
  | .session .sendFailed => "SendError(..)"
  | .session .crashed => quoted Session.Failure.crashed.message
  | .input f => f.outline
  | .undelivered => custom "Other" (quoted "SendError(..)")

end LspAdapter.Program
