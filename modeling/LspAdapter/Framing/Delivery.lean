import LspAdapter.Framing.Header
import LspAdapter.Json.Reader
import LspAdapter.Message.Reading
import LspAdapter.Message.Wire
/-!
# Messages in frames

A frame is a length, an empty line and a payload of that many bytes.  A stream
delivers the messages of its frames until its end, until the first fault, or up
to and including the notification `exit`, behind which nothing is read.
-/

namespace LspAdapter.Framing

/-- Reads the payload of a frame. A text that is no message is refused before
anything behind the value is looked at. -/
def readPayload (text : String) : Except PayloadFault Message := do
  let (v, rest) ← (Json.readFront text).mapError .json
  match Message.ofJson? v with
  | none => .error .noMessage
  | some m =>
    (Json.checkEnd text rest).mapError .json
    return m

inductive Frame
  /-- A message and the bytes behind its frame. -/
  | message (m : Message) (rest : List UInt8)
  | fault (f : Fault)
  /-- The bytes end before the frame does. If no more of them come, that is
  either a fault or the end of the input. -/
  | unfinished (f : Option Fault)

def Frame.ofPayload (payload rest : List UInt8) : Frame :=
  match Text.Utf8.decode? payload with
  | none =>
    .fault (.payloadNotUtf8 payload ((Text.Utf8.fault? payload).getD ⟨0, none⟩))
  | some text =>
    match readPayload text with
    | .ok m => .message m rest
    | .error f => .fault (.badPayload f)

/-- The least length that no payload can have: half of the addresses of 64
bits. -/
def excessiveLength : Nat :=
  0x8000000000000000

def Frame.next (bytes : List UInt8) : Frame :=
  match readHeaders [] none bytes with
  | .fault f => .fault f
  | .unfinished f => .unfinished f
  | .complete length rest =>
    if excessiveLength ≤ length then .fault .excessiveLength
    else if length ≤ rest.length then .ofPayload (rest.take length) (rest.drop length)
    else .unfinished (some .shortPayload)

structure Delivery where
  messages : List Message
  fault : Option Fault

def Delivery.cons (m : Message) (d : Delivery) : Delivery :=
  ⟨m :: d.messages, d.fault⟩

def deliver (bytes : List UInt8) : Delivery :=
  match Frame.next bytes with
  | .fault f => ⟨[], some f⟩
  | .unfinished f => ⟨[], f⟩
  | .message m rest =>
    if m.isExit then ⟨[m], none⟩
    else if rest.length < bytes.length then .cons m (deliver rest)
    else ⟨[m], none⟩
termination_by bytes.length

/-- What is delivered of some messages that end with a fault or without one:
nothing is read behind the first notification `exit`, so no fault shows there. -/
def Delivery.untilExit (fault : Option Fault) : List Message → Delivery
  | [] => ⟨[], fault⟩
  | m :: ms => if m.isExit then ⟨[m], none⟩ else .cons m (untilExit fault ms)

def frameOf (m : Message) : List UInt8 :=
  let payload := Text.Utf8.encode m.wire
  Text.Utf8.encode ("Content-Length: " ++ toString payload.length ++ "\r\n\r\n") ++ payload

end LspAdapter.Framing
