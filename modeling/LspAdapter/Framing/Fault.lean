import LspAdapter.Diagnostic
import LspAdapter.Json.Fault
import LspAdapter.Text.Utf8
/-!
# Faults of framed input

Why the next message cannot be read from a byte stream.
-/

namespace LspAdapter.Framing

open Diagnostic (custom list located option quoted record simple)

inductive CountFault
  | empty
  | badDigit
  | tooGreat
  deriving DecidableEq, Repr

inductive PayloadFault
  | json (e : Json.Error)
  | noMessage
  deriving DecidableEq, Repr

inductive Fault
  /-- A header line is not ended, or has no separator. -/
  | badHeader (line : String)
  | headerNotUtf8
  | badLength (f : CountFault)
  | noLength
  /-- The length is beyond all memory; the reader does not survive this. -/
  | excessiveLength
  | shortPayload
  | payloadNotUtf8 (bytes : List UInt8) (f : Text.Utf8.Fault)
  | badPayload (f : PayloadFault)
  deriving DecidableEq, Repr

def CountFault.name : CountFault → String
  | .empty => "Empty"
  | .badDigit => "InvalidDigit"
  | .tooGreat => "PosOverflow"

def PayloadFault.outline : PayloadFault → String
  | .json e => located e.cause.message e.place.line e.place.column
  | .noMessage => located "data did not match any variant of untagged enum Message" 0 0

def utf8Outline (bytes : List UInt8) (f : Text.Utf8.Fault) : String :=
  record "FromUtf8Error" [
    ("bytes", list (bytes.map fun b => toString b.toNat)),
    ("error", record "Utf8Error" [
      ("valid_up_to", toString f.validUpTo),
      ("error_len", option toString f.size)])]

def Fault.outline : Fault → String
  | .badHeader line =>
    custom "InvalidData" (quoted ("malformed header: " ++ quoted line))
  | .headerNotUtf8 => simple "InvalidData" "stream did not contain valid UTF-8"
  | .badLength f => custom "InvalidData" (record "ParseIntError" [("kind", f.name)])
  | .noLength => custom "InvalidData" (quoted "no Content-Length")
  | .excessiveLength => quoted "capacity overflow"
  | .shortPayload => simple "UnexpectedEof" "failed to fill whole buffer"
  | .payloadNotUtf8 bytes f => custom "InvalidData" (utf8Outline bytes f)
  | .badPayload f => custom "InvalidData" (quoted ("malformed LSP payload: " ++ f.outline))

end LspAdapter.Framing
