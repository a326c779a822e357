import LspAdapter.Program.Run
/-!
# Runs under way

Input comes bit by bit.  A run under way has its session so far and the bytes that it has
not used.  In one turn it takes a message from them, or it shows that the run is over or
that nothing can be done before more bytes come.
-/

namespace LspAdapter.Program

open Framing (Frame)

structure Live where
  session : Session.State
  pending : List UInt8

inductive Turn
  | takes (effect : Session.Effect) (next : Live)
  | stops (outcome : Except Failure Unit)
  /-- The run waits for input. If no more comes, it is over with this outcome. -/
  | waits (outcome : Except Failure Unit)

namespace Live

def start : Live :=
  ⟨(Session.State.start .sound).2, []⟩

def feed (x : Live) (bytes : List UInt8) : Live :=
  ⟨x.session, x.pending ++ bytes⟩

/-- How the run ends if the input has ended with a fault or without one. -/
def outcome (x : Live) (fault : Option Framing.Fault) : Except Failure Unit :=
  Program.outcome x.session.phase.disconnect fault 0

def turn (settings : Settings) (x : Live) : Turn :=
  if x.session.phase.isEnded then .stops (x.outcome none)
  else
    match Frame.next x.pending with
    | .message m rest =>
      let (effect, session) := x.session.step settings m
      .takes effect ⟨session, rest⟩
    | .fault f => .stops (x.outcome (some f))
    | .unfinished f => .waits (x.outcome f)

end Live

end LspAdapter.Program
