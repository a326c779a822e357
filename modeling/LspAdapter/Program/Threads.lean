import LspAdapter.Program.Run
/-!
# The threads of a run

A run has three threads.  The reader takes messages off the input and offers them
one by one.  The server takes them, and hands what the session sends to the
writer, which puts it on the output in frames.  A message is handed over when both
sides are ready, and not before.

The run is over as soon as the session fails, whatever the other threads are
doing.  When the session has ended well, the server closes its ends of both
channels and waits, first for the reader to stop and then for the writer.  A
reader that failed makes the run fail.

Time is not modelled.  The server waits for `exit` after `shutdown` as long as it
takes; the wait in the program, which fails after 30 seconds, is taken to be over
before.
-/

namespace LspAdapter.Program

open Framing (frameOf)

inductive Reader
  /-- To read on. These messages are still to come, and then the input ends with
  a fault or without one. -/
  | reading (ms : List Message) (fault : Option Framing.Fault)
  | offering (m : Message) (ms : List Message) (fault : Option Framing.Fault)
  /-- To stop, since it has handed over the notification `exit`. -/
  | leaving
  | stopped (outcome : Except Failure Unit)

def Reader.next (m : Message) (ms : List Message) (fault : Option Framing.Fault) : Reader :=
  if m.isExit then .leaving else .reading ms fault

inductive Server
  /-- To send the messages of its outbox, and then to take the next message. -/
  | serving (outbox : List Message) (session : Session.State)
  | joiningReader
  | joiningWriter

def Server.isClosed : Server → Bool
  | .serving _ _ => false
  | .joiningReader | .joiningWriter => true

inductive Writer
  | idle
  | writing (m : Message)
  | stopped

/-- The threads of a run, and what was put on the output. -/
structure Threads where
  reader : Reader
  server : Server
  writer : Writer
  output : List UInt8

inductive Process
  | running (x : Threads)
  | exited (outcome : Except Failure Unit) (output : List UInt8)

namespace Threads

def start (ms : List Message) (fault : Option Framing.Fault) : Threads :=
  let (effect, session) := Session.State.start .sound
  ⟨.reading ms fault, .serving effect.sent session, .idle, []⟩

/-- One step of one thread, or of two that hand over a message. -/
inductive Step (settings : Settings) : Threads → Process → Prop
  | read (m : Message) (ms : List Message) (fault : Option Framing.Fault) (s : Server)
      (w : Writer) (out : List UInt8) :
      Step settings ⟨.reading (m :: ms) fault, s, w, out⟩
        (.running ⟨.offering m ms fault, s, w, out⟩)
  | readEnd (fault : Option Framing.Fault) (s : Server) (w : Writer) (out : List UInt8) :
      Step settings ⟨.reading [] fault, s, w, out⟩
        (.running ⟨.stopped (readerOutcome fault 0), s, w, out⟩)
  | leave (s : Server) (w : Writer) (out : List UInt8) :
      Step settings ⟨.leaving, s, w, out⟩ (.running ⟨.stopped (.ok ()), s, w, out⟩)
  /-- The reader cannot hand over a message to a server that has closed. -/
  | refuse (m : Message) (ms : List Message) (fault : Option Framing.Fault) (s : Server)
      (w : Writer) (out : List UInt8) : s.isClosed = true →
      Step settings ⟨.offering m ms fault, s, w, out⟩
        (.running ⟨.stopped (.error .undelivered), s, w, out⟩)
  | take (m : Message) (ms : List Message) (fault : Option Framing.Fault)
      (session : Session.State) (w : Writer) (out : List UInt8) :
      session.phase.isEnded = false →
      Step settings ⟨.offering m ms fault, .serving [] session, w, out⟩
        (.running ⟨.next m ms fault,
          .serving (session.step settings m).1.sent (session.step settings m).2, w, out⟩)
  /-- The server notices that the reader has stopped. -/
  | disconnect (outcome : Except Failure Unit) (session : Session.State) (w : Writer)
      (out : List UInt8) : session.phase.isEnded = false →
      Step settings ⟨.stopped outcome, .serving [] session, w, out⟩
        (.running ⟨.stopped outcome,
          .serving [] ⟨.ended session.phase.disconnect, session.link⟩, w, out⟩)
  | send (r : Reader) (m : Message) (outbox : List Message) (session : Session.State)
      (out : List UInt8) :
      Step settings ⟨r, .serving (m :: outbox) session, .idle, out⟩
        (.running ⟨r, .serving outbox session, .writing m, out⟩)
  | write (r : Reader) (s : Server) (m : Message) (out : List UInt8) :
      Step settings ⟨r, s, .writing m, out⟩ (.running ⟨r, s, .idle, out ++ frameOf m⟩)
  /-- The session has failed, and with it the run. -/
  | fail (r : Reader) (f : Session.Failure) (link : Session.Link) (w : Writer)
      (out : List UInt8) :
      Step settings ⟨r, .serving [] ⟨.ended (.failed f), link⟩, w, out⟩
        (.exited (.error (.session f)) out)
  /-- The session has ended well, and the server closes its ends of the channels. -/
  | close (r : Reader) (link : Session.Link) (w : Writer) (out : List UInt8) :
      Step settings ⟨r, .serving [] ⟨.ended .finished, link⟩, w, out⟩
        (.running ⟨r, .joiningReader, w, out⟩)
  | joinReader (w : Writer) (out : List UInt8) :
      Step settings ⟨.stopped (.ok ()), .joiningReader, w, out⟩
        (.running ⟨.stopped (.ok ()), .joiningWriter, w, out⟩)
  | joinFailed (f : Failure) (w : Writer) (out : List UInt8) :
      Step settings ⟨.stopped (.error f), .joiningReader, w, out⟩ (.exited (.error f) out)
  /-- The writer notices that no more messages come. -/
  | stopWriting (r : Reader) (s : Server) (out : List UInt8) : s.isClosed = true →
      Step settings ⟨r, s, .idle, out⟩ (.running ⟨r, s, .stopped, out⟩)
  | joinWriter (r : Reader) (out : List UInt8) :
      Step settings ⟨r, .joiningWriter, .stopped, out⟩ (.exited (.ok ()) out)

inductive Steps (settings : Settings) (x : Threads) : Nat → Process → Prop
  | refl : Steps settings x 0 (.running x)
  | step {n : Nat} {y : Threads} {z : Process} :
      Steps settings x n (.running y) → Step settings y z → Steps settings x (n + 1) z

end Threads

end LspAdapter.Program
