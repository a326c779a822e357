import LspAdapter.Text.Utf8
/-!
# Sinks that may fail

A sink takes bytes until it is full.  A write that does not fit is cut, and
every later one fails.  A writer offers what is left again after a cut, and
gives up at the first failure.
-/

namespace LspAdapter

/-- What a sink has taken, the last byte first, and how many bytes it will still
take; without a limit it takes everything. -/
structure Sink where
  room : Option Nat
  backward : List UInt8
  deriving DecidableEq, Repr

namespace Sink

def unlimited : Sink :=
  ⟨none, []⟩

def ofRoom (n : Nat) : Sink :=
  ⟨some n, []⟩

def taken (s : Sink) : List UInt8 :=
  s.backward.reverse

def extend (s : Sink) (room : Option Nat) (bytes : List UInt8) : Sink :=
  ⟨room, bytes.reverse ++ s.backward⟩

@[simp] theorem taken_extend (s : Sink) (room : Option Nat) (bytes : List UInt8) :
    (s.extend room bytes).taken = s.taken ++ bytes := by
  simp [taken, extend]

/-- One write: the bytes that are left over, or no answer if the sink is
full. -/
def offer (s : Sink) (bytes : List UInt8) : Option (List UInt8 × Sink) :=
  match s.room with
  | none => some ([], s.extend none bytes)
  | some 0 => none
  | some (n + 1) =>
    some (bytes.drop (n + 1), s.extend (some (n + 1 - bytes.length)) (bytes.take (n + 1)))

/-- Offers bytes until all are taken; the flag tells whether they were. -/
def put (s : Sink) (bytes : List UInt8) : Bool × Sink :=
  if bytes.isEmpty then (true, s)
  else
    match s.offer bytes with
    | none => (false, s)
    | some (left, s) => if left.length < bytes.length then put s left else (false, s)
termination_by bytes.length

def putAll (s : Sink) : List String → Bool × Sink
  | [] => (true, s)
  | t :: ts =>
    match s.put (Text.Utf8.encode t) with
    | (true, s) => putAll s ts
    | (false, s) => (false, s)

def text (s : Sink) : String :=
  Text.Utf8.lossy s.taken

end Sink

end LspAdapter
