import LspAdapter.Message.Basic
/-!
# Messages from JSON

A value is tried as a request, then as a response, then as a notification.  Each
is a record, written as an object or as an array of its parts in order.
-/

namespace LspAdapter

open Json (Value)

namespace Json.Value

/-- The parts of a record by their names: those of an object, where no name may
occur twice and other names do not count, or the items of an array that is not
longer than the record. A part that is missing at all is `none`. -/
def parts? (names : List String) : Value → Option (List (Option Value))
  | .object fields =>
    if names.any (Fields.repeats fields) then none
    else some (names.map (Fields.get? fields))
  | .array items =>
    if items.length ≤ names.length then
      some (items.map some ++ List.replicate (names.length - items.length) none)
    else none
  | _ => none

/-- The value of an optional part: null means that there is none. -/
def present? : Option Value → Option Value
  | none | some .null => none
  | some v => some v.sorted

end Json.Value

def readParams (v : Option Value) : Value :=
  (v.getD .null).sorted

def RequestId.ofJson? (v : Value) : Option RequestId :=
  (v.int32?.map .number).or (v.text?.map .text)

def Request.ofJson? (v : Value) : Option Request := do
  match ← v.parts? ["id", "method", "params"] with
  | [some id, some method, params] =>
    return ⟨← RequestId.ofJson? id, ← method.text?, readParams params⟩
  | _ => none

def ResponseError.ofJson? (v : Value) : Option ResponseError := do
  match ← v.parts? ["code", "message", "data"] with
  | [some code, some message, data] =>
    return ⟨← code.int32?, ← message.text?, Value.present? data⟩
  | _ => none

/-- The optional error of a response. The outer answer is none where there is a
value that is no error. -/
def ResponseError.optional? : Option Value → Option (Option ResponseError)
  | none | some .null => some none
  | some v => (ofJson? v).map some

def Response.ofJson? (v : Value) : Option Response := do
  match ← v.parts? ["id", "result", "error"] with
  | [some id, result, error] =>
    return ⟨← RequestId.ofJson? id, Value.present? result, ← ResponseError.optional? error⟩
  | _ => none

def Notification.ofJson? (v : Value) : Option Notification := do
  match ← v.parts? ["method", "params"] with
  | [some method, params] => return ⟨← method.text?, readParams params⟩
  | _ => none

def Message.ofJson? (v : Value) : Option Message :=
  ((Request.ofJson? v).map .request).or <|
    ((Response.ofJson? v).map .response).or <| (Notification.ofJson? v).map .notification

end LspAdapter
