import LspAdapter.Diagnostic
import LspAdapter.Json.Outline
import LspAdapter.Message.Basic
/-!
# Outlines of messages

The form in which a diagnostic shows a message: its kind and its parts, each
with its name.
-/

namespace LspAdapter

open Diagnostic (option quoted record tagged)

def RequestId.outline : RequestId → String
  | .number n => tagged "RequestId" (tagged "I32" (toString n.toInt))
  | .text s => tagged "RequestId" (tagged "String" (quoted s))

def Request.outline (r : Request) : String :=
  record "Request"
    [("id", r.id.outline), ("method", quoted r.method), ("params", r.params.outline)]

def ResponseError.outline (e : ResponseError) : String :=
  record "ResponseError"
    [("code", toString e.code.toInt), ("message", quoted e.message),
      ("data", option Json.Value.outline e.data)]

def Response.outline (r : Response) : String :=
  record "Response"
    [("id", r.id.outline), ("result", option Json.Value.outline r.result),
      ("error", option ResponseError.outline r.error)]

def Notification.outline (n : Notification) : String :=
  record "Notification" [("method", quoted n.method), ("params", n.params.outline)]

def Message.outline : Message → String
  | .request r => tagged "Request" r.outline
  | .response r => tagged "Response" r.outline
  | .notification n => tagged "Notification" n.outline

end LspAdapter
