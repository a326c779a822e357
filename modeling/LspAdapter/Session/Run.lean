import LspAdapter.Session.Phase
/-!
# Running a session

A session takes messages one by one until it ends; messages after that stay
unread.
-/

namespace LspAdapter.Session

/-- A running session: what it waits for, and what its client still receives. -/
structure State where
  phase : Phase
  link : Link

namespace State

def brokenEnding : Break → Ending
  | .crashed => .failed .crashed
  | .reported => .failed .sendFailed

def carryOut (s : State) (r : Reaction) : Effect × State :=
  let (effect, link, broken) := perform s.link r.actions
  match broken with
  | none => (effect, ⟨r.next, link⟩)
  | some b => (effect, ⟨.ended (brokenEnding b), link⟩)

def start (l : Link) : Effect × State :=
  carryOut ⟨.awaitingInitialize, l⟩ ⟨opening, .awaitingInitialize⟩

def step (settings : Settings) (s : State) (m : Message) : Effect × State :=
  s.carryOut (s.phase.react settings m)

def run (settings : Settings) (s : State) : List Message → List Effect × State
  | [] => ([], s)
  | m :: ms =>
    let (effect, s) := s.step settings m
    let (effects, s) := s.run settings ms
    (effect :: effects, s)

/-- How many messages are taken before the session has ended. -/
def taken (settings : Settings) (s : State) : List Message → Nat
  | [] => 0
  | m :: ms =>
    if s.phase.isEnded then 0 else (s.step settings m).2.taken settings ms + 1

def hangUp (s : State) : State :=
  ⟨s.phase, .lost⟩

end State

/-- A whole session: the effect before any message, that of each message, how
the session ended once the client had disconnected, and how many messages it
did not take. -/
structure Transcript where
  opening : Effect
  effects : List Effect
  ending : Ending
  unread : Nat

namespace Transcript

def sent (t : Transcript) : List Message :=
  t.opening.sent ++ t.effects.flatMap (·.sent)

def records (t : Transcript) : List Journal.Record :=
  t.opening.records ++ t.effects.flatMap (·.records)

end Transcript

def transcript (settings : Settings) (l : Link) (ms : List Message) : Transcript :=
  let (opening, s) := State.start l
  let (effects, s') := s.run settings ms
  ⟨opening, effects, s'.phase.disconnect, ms.length - s.taken settings ms⟩

/-- A session whose client stops receiving after some count of messages, but
sends all of them. -/
def transcriptUntilLost (settings : Settings) (count : Nat) (ms : List Message) : Transcript :=
  let (opening, s) := State.start .sound
  let (before, s') := s.run settings (ms.take count)
  let (after, s'') := s'.hangUp.run settings (ms.drop count)
  ⟨opening, before ++ after, s''.phase.disconnect,
    ms.length - s.taken settings (ms.take count) - s'.hangUp.taken settings (ms.drop count)⟩

end LspAdapter.Session
