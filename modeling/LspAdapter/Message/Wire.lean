import LspAdapter.Json.Printer
import LspAdapter.Message.Basic
/-!
# Messages on the wire

A message is one JSON object that begins with the version of the protocol.
Parts that say nothing are left out.
-/

namespace LspAdapter

open Json (Value)

def RequestId.toJson : RequestId → Value
  | .number n => .int n.toInt
  | .text s => .text s

def paramsField : Value → Json.Fields
  | .null => []
  | v => [("params", v)]

def optionalField (name : String) : Option Value → Json.Fields
  | none => []
  | some v => [(name, v)]

def ResponseError.toJson (e : ResponseError) : Value :=
  .object ([("code", .int e.code.toInt), ("message", .text e.message)] ++
    optionalField "data" e.data)

namespace Message

/-- The fields of a message in their order, the protocol's version aside. -/
def fields : Message → Json.Fields
  | .request r => [("id", r.id.toJson), ("method", .text r.method)] ++ paramsField r.params
  | .response r =>
    [("id", r.id.toJson)] ++ optionalField "result" r.result ++
      optionalField "error" (r.error.map ResponseError.toJson)
  | .notification n => [("method", .text n.method)] ++ paramsField n.params

def toJson (m : Message) : Value :=
  .object (("jsonrpc", .text "2.0") :: m.fields)

def wire (m : Message) : String :=
  m.toJson.compact

end Message

end LspAdapter
