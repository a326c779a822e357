import LspAdapter.Json.Value
/-!
# Messages

What client and server send each other: requests, the responses that answer
them, and notifications, which nothing answers.
-/

namespace LspAdapter

inductive RequestId
  | number (n : Int32)
  | text (s : String)
  deriving DecidableEq, Repr

structure Request where
  id : RequestId
  method : String
  params : Json.Value
  deriving Repr, BEq

structure ResponseError where
  code : Int32
  message : String
  data : Option Json.Value
  deriving Repr, BEq

structure Response where
  id : RequestId
  result : Option Json.Value
  error : Option ResponseError
  deriving Repr, BEq

structure Notification where
  method : String
  params : Json.Value
  deriving Repr, BEq

inductive Message
  | request (r : Request)
  | response (r : Response)
  | notification (n : Notification)
  deriving Repr, BEq

namespace Response

def ok (id : RequestId) (result : Json.Value) : Response :=
  ⟨id, some result, none⟩

def failure (id : RequestId) (code : Int32) (message : String) : Response :=
  ⟨id, none, some ⟨code, message, none⟩⟩

end Response

namespace Message

def isExit : Message → Bool
  | .notification n => n.method = "exit"
  | _ => false

def isInitialized : Message → Bool
  | .notification n => n.method = "initialized"
  | _ => false

end Message

end LspAdapter
