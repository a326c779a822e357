import LspAdapter.Decimal.Binary64
/-!
# JSON values

An object is the list of its fields as they are written, so a name may occur
twice.  The sorted form orders the fields by name and keeps the last of several
with one name, at every level.
-/

namespace LspAdapter.Json

open Decimal (Binary64)

/-- A JSON number: an integer of at most 64 bits, or a binary64 number. -/
inductive Number
  | integer (n : Int)
  | binary (x : Binary64)
  deriving DecidableEq, Repr

inductive Value
  | null
  | bool (b : Bool)
  | number (n : Number)
  | text (s : String)
  | array (items : List Value)
  | object (fields : List (String × Value))
  deriving Repr, BEq

instance : Inhabited Value := ⟨.null⟩

abbrev Fields := List (String × Value)

namespace Fields

/-- Puts a field in its place by name; a field of that name is replaced. -/
def put (name : String) (v : Value) : Fields → Fields
  | [] => [(name, v)]
  | (n, w) :: rest =>
    if name < n then (name, v) :: (n, w) :: rest
    else if name = n then (name, v) :: rest
    else (n, w) :: put name v rest

def get? (fields : Fields) (name : String) : Option Value :=
  List.lookup name fields

def repeats (fields : Fields) (name : String) : Bool :=
  1 < (fields.filter (·.1 = name)).length

end Fields

namespace Value

mutual

def sorted : Value → Value
  | .array items => .array (sortedItems items)
  | .object fields => .object (sortedFields [] fields)
  | v => v

def sortedItems : List Value → List Value
  | [] => []
  | v :: vs => v.sorted :: sortedItems vs

def sortedFields (acc : Fields) : List (String × Value) → Fields
  | [] => acc
  | (name, v) :: rest => sortedFields (Fields.put name v.sorted acc) rest

end

def text? : Value → Option String
  | .text s => some s
  | _ => none

def int32? : Value → Option Int32
  | .number (.integer n) => if -0x80000000 ≤ n ∧ n < 0x80000000 then some (.ofInt n) else none
  | _ => none

def int (n : Int) : Value :=
  .number (.integer n)

end Value

end LspAdapter.Json
