import LspAdapter.Journal
import LspAdapter.Message.Basic
/-!
# Actions of a session

A session records what it does and sends messages.  The client may stop
receiving at any time; what a failed send means depends on the message.  A
`Link` counts the sends that still succeed, so that a lost client can be placed
before any one of them.
-/

namespace LspAdapter.Session

open Journal (Record)

inductive OnFailure
  | crash
  | report
  | ignore
  deriving DecidableEq, Repr

inductive Action
  | record (r : Record)
  | send (m : Message) (onFailure : OnFailure)
  deriving Repr, BEq

/-- How many sends still succeed; without a bound all do. -/
structure Link where
  room : Option Nat
  deriving DecidableEq, Repr

namespace Link

def sound : Link :=
  ⟨none⟩

def ofRoom (n : Nat) : Link :=
  ⟨some n⟩

def lost : Link :=
  ofRoom 0

/-- One send: the link after it, or no answer if it fails. -/
def send? (l : Link) : Option Link :=
  match l.room with
  | none => some l
  | some 0 => none
  | some (n + 1) => some (ofRoom n)

end Link

structure Effect where
  sent : List Message
  records : List Record
  deriving Repr, BEq

def Effect.none : Effect :=
  ⟨[], []⟩

inductive Break
  | crashed
  | reported
  deriving DecidableEq, Repr

/-- Carries out actions in order, up to a send whose failure ends the session. -/
def perform (l : Link) : List Action → Effect × Link × Option Break
  | [] => (.none, l, none)
  | .record r :: rest =>
    let (effect, l, broken) := perform l rest
    (⟨effect.sent, r :: effect.records⟩, l, broken)
  | .send m onFailure :: rest =>
    match l.send?, onFailure with
    | some l, _ =>
      let (effect, l, broken) := perform l rest
      (⟨m :: effect.sent, effect.records⟩, l, broken)
    | none, .crash => (.none, l, some .crashed)
    | none, .report => (.none, l, some .reported)
    | none, .ignore => perform l rest

end LspAdapter.Session
