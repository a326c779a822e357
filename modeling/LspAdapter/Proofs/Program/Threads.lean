import LspAdapter.Program.Threads
import LspAdapter.Proofs.Framing.Delivery
import LspAdapter.Proofs.Session.Sound
/-!
# Runs of the threads

Whatever the order in which the threads step, a run comes to the outcome of the
session on what is delivered, in a bounded number of steps and without a
deadlock.  What carries this is an invariant of the threads: what was handed over
and what the reader still has make up the delivery, what is on the output and on
its way there makes up what the session sent, and a session that has ended well
leaves no message with the reader.
-/

namespace LspAdapter.Program

open Framing (Delivery frameOf)
open Session (Phase)

variable (settings : Settings)

/-! ## The threads -/

def Reader.isDone : Reader → Bool
  | .reading _ _ | .offering _ _ _ => false
  | .leaving | .stopped _ => true

/-- Some messages were handed over, and with what the reader still has they make
up a delivery. -/
def Reader.Completes (d : Delivery) (taken : List Message) : Reader → Prop
  | .reading ms fault =>
      d = ⟨taken ++ (Delivery.untilExit fault ms).messages, (Delivery.untilExit fault ms).fault⟩
  | .offering m ms fault =>
      d = ⟨taken ++ (Delivery.untilExit fault (m :: ms)).messages,
        (Delivery.untilExit fault (m :: ms)).fault⟩
  | .leaving => d = ⟨taken, none⟩
  | .stopped outcome => d.messages = taken ∧ outcome = readerOutcome d.fault 0

def Server.outbox : Server → List Message
  | .serving outbox _ => outbox
  | .joiningReader | .joiningWriter => []

def Server.IsFinished : Server → Prop
  | .serving _ session => session.phase = .ended .finished
  | .joiningReader | .joiningWriter => True

/-- A server that has taken some messages is in the phase after them, or it has
noticed that the reader has stopped. -/
def Server.Follows (taken : List Message) (r : Reader) : Server → Prop
  | .serving _ session =>
      session.link = .sound ∧
        (session.phase = Phase.awaitingInitialize.after settings taken ∨
          (∃ outcome, r = .stopped outcome) ∧
            session.phase = .ended (Phase.awaitingInitialize.after settings taken).disconnect)
  | .joiningReader | .joiningWriter =>
      (Phase.awaitingInitialize.after settings taken).disconnect = .finished

def Writer.pending : Writer → List Message
  | .writing m => [m]
  | .idle | .stopped => []

theorem Reader.Completes.exists_rest {d : Delivery} {taken : List Message} {r : Reader}
    (h : r.Completes d taken) : ∃ rest, d.messages = taken ++ rest := by
  cases r with
  | reading ms fault => exact ⟨_, congrArg Delivery.messages h⟩
  | offering m ms fault => exact ⟨_, congrArg Delivery.messages h⟩
  | leaving => exact ⟨[], by rw [h, List.append_nil]⟩
  | stopped outcome => exact ⟨[], by rw [h.1, List.append_nil]⟩

theorem readerOutcome_ne_undelivered (fault : Option Framing.Fault) :
    readerOutcome fault 0 ≠ .error .undelivered := by
  cases fault <;> simp [readerOutcome]

theorem Reader.Completes.ne_undelivered {d : Delivery} {taken : List Message} {r : Reader}
    (h : r.Completes d taken) : r ≠ .stopped (.error .undelivered) := by
  rintro rfl
  exact readerOutcome_ne_undelivered d.fault h.2.symm

theorem Reader.Completes.next {d : Delivery} {taken ms : List Message} {m : Message}
    {fault : Option Framing.Fault} (h : (Reader.offering m ms fault).Completes d taken) :
    (Reader.next m ms fault).Completes d (taken ++ [m]) := by
  simp only [Reader.Completes, Delivery.untilExit_cons] at h
  unfold Reader.next
  cases hm : m.isExit with
  | true =>
      rw [hm, if_pos rfl] at h
      exact h
  | false =>
      rw [hm, if_neg Bool.false_ne_true] at h
      rw [if_neg Bool.false_ne_true]
      simpa [Reader.Completes, Delivery.cons] using h

/-- A server in the middle of the reader's messages has not noticed its end. -/
theorem Server.Follows.of_reader {taken : List Message} {r r' : Reader} {s : Server}
    (h : s.Follows settings taken r) (hr : ∀ outcome, r ≠ .stopped outcome) :
    s.Follows settings taken r' := by
  cases s with
  | serving outbox session =>
      obtain ⟨hlink, hphase | ⟨⟨outcome, hstopped⟩, -⟩⟩ := h
      · exact ⟨hlink, .inl hphase⟩
      · exact absurd hstopped (hr outcome)
  | joiningReader => exact h
  | joiningWriter => exact h

/-! ## The invariant -/

/-- What holds at every moment of a run whose input delivers something, once the
server has taken some of its messages. -/
structure Invariant (d : Delivery) (taken : List Message) (x : Threads) : Prop where
  reader : x.reader.Completes d taken
  output : x.output ++ (x.writer.pending ++ x.server.outbox).flatMap frameOf =
    (Phase.awaitingInitialize.sent settings taken).flatMap frameOf
  server : x.server.Follows settings taken x.reader
  finished : x.server.IsFinished → x.reader.isDone = true
  joined : x.server = .joiningWriter → x.reader = .stopped (.ok ())
  writer : x.writer = .stopped → x.server.isClosed = true

theorem invariant_start (ms : List Message) (fault : Option Framing.Fault) :
    Invariant settings (.untilExit fault ms) [] (.start ms fault) where
  reader := rfl
  output := rfl
  server := ⟨rfl, .inl rfl⟩
  finished := nofun
  joined := nofun
  writer := nofun

/-- The outcome of a run whose input delivers something, the threads aside. -/
def result (d : Delivery) : Except Failure Unit :=
  outcome (session settings d).ending d.fault (session settings d).unread

def Process.Sound (d : Delivery) : Process → Prop
  | .running x => ∃ taken, Invariant settings d taken x
  | .exited o output =>
      o = result settings d ∧ (o = .ok () → output = (session settings d).sent.flatMap frameOf)

/-! ## What each thread preserves -/

namespace Invariant

variable {settings} {d : Delivery} {taken : List Message}
variable {r r' : Reader} {s : Server} {w : Writer} {out : List UInt8}

theorem reads (h : Invariant settings d taken ⟨r, s, w, out⟩)
    (hr : ∀ outcome, r ≠ .stopped outcome) (hcompletes : r'.Completes d taken)
    (hdone : r.isDone = true → r'.isDone = true) :
    Invariant settings d taken ⟨r', s, w, out⟩ where
  reader := hcompletes
  output := h.output
  server := h.server.of_reader settings hr
  finished hs := hdone (h.finished hs)
  joined hs := absurd (h.joined hs) (hr _)
  writer := h.writer

theorem phase_eq {outbox : List Message} {session : Session.State}
    (h : Invariant settings d taken ⟨r, .serving outbox session, w, out⟩)
    (hlive : session.phase.isEnded = false) :
    session = ⟨Phase.awaitingInitialize.after settings taken, .sound⟩ := by
  obtain ⟨phase, link⟩ := session
  obtain ⟨hlink, hphase | ⟨-, hphase⟩⟩ := h.server
  · exact congr (congrArg Session.State.mk hphase) hlink
  · have hended : phase = .ended _ := hphase
    rw [hended] at hlive
    cases hlive

theorem takes {m : Message} {ms : List Message} {fault : Option Framing.Fault}
    {session : Session.State}
    (h : Invariant settings d taken ⟨.offering m ms fault, .serving [] session, w, out⟩)
    (hlive : session.phase.isEnded = false) :
    Invariant settings d (taken ++ [m])
      ⟨.next m ms fault,
        .serving (session.step settings m).1.sent (session.step settings m).2, w, out⟩ := by
  have hafter : (Phase.awaitingInitialize.after settings taken).isEnded = false := by
    have hsession := h.phase_eq hlive
    rwa [hsession] at hlive
  rw [h.phase_eq hlive]
  obtain ⟨hsent, hnext⟩ :=
    Session.step_sound settings (Phase.awaitingInitialize.after settings taken) m
  rw [hsent, hnext]
  refine ⟨h.reader.next, ?output, ⟨rfl, .inl ?phase⟩, ?finished, nofun, ?writer⟩
  case output =>
    have houtput := h.output
    simp only [Server.outbox, List.append_nil] at houtput
    simp only [Server.outbox, Phase.sent_append, Phase.sent_cons, Phase.sent_nil,
      List.append_nil, List.flatMap_append, ← houtput, List.append_assoc]
  case phase => rw [Phase.after_append, Phase.after_cons, Phase.after_nil]
  case finished =>
    intro hfinished
    have hmove :=
      Session.move_react settings (Phase.awaitingInitialize.after settings taken) m hafter
    rw [show (Phase.react settings (Phase.awaitingInitialize.after settings taken) m).next =
      .ended .finished from hfinished] at hmove
    simp only [Reader.next, hmove.isExit_of_finished, if_true, Reader.isDone]
  case writer =>
    intro hw
    cases h.writer hw

theorem notices {outcome : Except Failure Unit} {session : Session.State}
    (h : Invariant settings d taken ⟨.stopped outcome, .serving [] session, w, out⟩)
    (hlive : session.phase.isEnded = false) :
    Invariant settings d taken
      ⟨.stopped outcome, .serving [] ⟨.ended session.phase.disconnect, session.link⟩, w, out⟩ where
  reader := h.reader
  output := h.output
  server := by
    rw [h.phase_eq hlive]
    exact ⟨rfl, .inr ⟨⟨outcome, rfl⟩, rfl⟩⟩
  finished _ := rfl
  joined := nofun
  writer hw := h.writer hw

theorem sends {m : Message} {outbox : List Message} {session : Session.State}
    (h : Invariant settings d taken ⟨r, .serving (m :: outbox) session, .idle, out⟩) :
    Invariant settings d taken ⟨r, .serving outbox session, .writing m, out⟩ where
  reader := h.reader
  output := h.output
  server := h.server
  finished := h.finished
  joined := nofun
  writer := nofun

theorem writes {m : Message} (h : Invariant settings d taken ⟨r, s, .writing m, out⟩) :
    Invariant settings d taken ⟨r, s, .idle, out ++ Framing.frameOf m⟩ where
  reader := h.reader
  output := by
    rw [← h.output]
    simp [Writer.pending]
  server := h.server
  finished := h.finished
  joined := h.joined
  writer := nofun

/-- How the session ends on all of the delivery, once the server is in an ended
phase. -/
theorem disconnect_eq {outbox : List Message} {session : Session.State} {e : Session.Ending}
    (h : Invariant settings d taken ⟨r, .serving outbox session, w, out⟩)
    (he : session.phase = .ended e) :
    (Phase.awaitingInitialize.after settings taken).disconnect = e := by
  obtain ⟨-, hphase | ⟨-, hphase⟩⟩ := h.server
  · rw [← hphase, he]
    rfl
  · rw [he] at hphase
    exact (Phase.ended.inj hphase).symm

theorem closes {session : Session.State}
    (h : Invariant settings d taken ⟨r, .serving [] session, w, out⟩)
    (he : session.phase = .ended .finished) :
    Invariant settings d taken ⟨r, .joiningReader, w, out⟩ where
  reader := h.reader
  output := h.output
  server := h.disconnect_eq he
  finished _ := h.finished he
  joined := nofun
  writer _ := rfl

theorem joins (h : Invariant settings d taken ⟨.stopped (.ok ()), .joiningReader, w, out⟩) :
    Invariant settings d taken ⟨.stopped (.ok ()), .joiningWriter, w, out⟩ where
  reader := h.reader
  output := h.output
  server := h.server
  finished _ := rfl
  joined _ := rfl
  writer _ := rfl

theorem stopsWriting (h : Invariant settings d taken ⟨r, s, .idle, out⟩)
    (hs : s.isClosed = true) : Invariant settings d taken ⟨r, s, .stopped, out⟩ where
  reader := h.reader
  output := h.output
  server := h.server
  finished := h.finished
  joined := h.joined
  writer _ := hs

/-! ## Outcomes -/

/-- Once the phase after the taken messages has ended, or the reader has stopped,
the session ends on all of the delivery as it does on the taken messages. -/
theorem session_eq {x : Threads} (h : Invariant settings d taken x)
    (hall : (Phase.awaitingInitialize.after settings taken).isEnded = true ∨
      ∃ outcome, x.reader = .stopped outcome) :
    (session settings d).ending = (Phase.awaitingInitialize.after settings taken).disconnect ∧
      (session settings d).sent = Phase.awaitingInitialize.sent settings taken := by
  unfold session
  rw [Session.transcript_sound_ending, Session.transcript_sound_sent]
  obtain ⟨rest, hrest⟩ := h.reader.exists_rest
  rcases hall with hended | ⟨outcome, hstopped⟩
  · obtain ⟨e, he⟩ := (Phase.isEnded_iff _).1 hended
    rw [hrest, Phase.after_append, Phase.sent_append, he, Phase.after_ended, Phase.sent_ended,
      List.append_nil]
    exact ⟨rfl, rfl⟩
  · have hreader := h.reader
    rw [hstopped] at hreader
    rw [hreader.1]
    exact ⟨rfl, rfl⟩

end Invariant

section

variable {settings} {ms : List Message} {fault : Option Framing.Fault}

/-- A session that ends well leaves nothing unread of what is delivered, as only
`exit` can end it before its messages are over. -/
theorem unread_eq_zero
    (h : (session settings (.untilExit fault ms)).ending = .finished) :
    (session settings (.untilExit fault ms)).unread = 0 := by
  rcases Session.transcript_runs_or_ends settings (Delivery.untilExit fault ms).messages with
    ⟨hunread, -⟩ | ⟨before, m, rest, e, hms, -, hmove, hending, hunread, -⟩
  · exact hunread
  · have he : e = .finished := hending.symm.trans h
    rw [he] at hmove
    have hrest := Delivery.untilExit_eq_append_exit fault hms hmove.isExit_of_finished
    rw [hrest] at hunread
    exact hunread

theorem result_of_failed {d : Delivery} {f : Session.Failure}
    (h : (session settings d).ending = .failed f) :
    result settings d = .error (.session f) := by
  unfold result
  rw [h]
  rfl

theorem result_of_finished
    (h : (session settings (.untilExit fault ms)).ending = .finished) :
    result settings (.untilExit fault ms) =
      readerOutcome (Delivery.untilExit fault ms).fault 0 := by
  unfold result
  rw [unread_eq_zero h, h]
  rfl

theorem readerOutcome_eq_ok_iff (fault : Option Framing.Fault) :
    readerOutcome fault 0 = .ok () ↔ fault = none := by
  cases fault <;> simp [readerOutcome]

theorem result_eq_ok_iff :
    result settings (.untilExit fault ms) = .ok () ↔
      (Delivery.untilExit fault ms).fault = none ∧
        (session settings (.untilExit fault ms)).ending = .finished := by
  cases h : (session settings (.untilExit fault ms)).ending with
  | finished => rw [result_of_finished h, readerOutcome_eq_ok_iff]; simp
  | failed f => rw [result_of_failed h]; simp

theorem result_ne_undelivered :
    result settings (.untilExit fault ms) ≠ .error .undelivered := by
  cases h : (session settings (.untilExit fault ms)).ending with
  | finished =>
      rw [result_of_finished h]
      exact readerOutcome_ne_undelivered _
  | failed f =>
      rw [result_of_failed h]
      simp

namespace Invariant

variable {taken : List Message} {r : Reader} {w : Writer} {out : List UInt8}

theorem fails {f : Session.Failure} {link : Session.Link}
    (h : Invariant settings (.untilExit fault ms) taken
      ⟨r, .serving [] ⟨.ended (.failed f), link⟩, w, out⟩) :
    (Process.exited (.error (.session f)) out).Sound settings (.untilExit fault ms) := by
  have hall : (Phase.awaitingInitialize.after settings taken).isEnded = true ∨
      ∃ outcome, r = .stopped outcome := by
    obtain ⟨-, hphase | ⟨hstopped, -⟩⟩ := h.server
    · exact .inl ((Phase.isEnded_iff _).2 ⟨_, hphase.symm⟩)
    · exact .inr hstopped
  have hending := (h.session_eq hall).1
  rw [h.disconnect_eq rfl] at hending
  exact ⟨(result_of_failed hending).symm, nofun⟩

/-- The server waits for the other threads only when the session has ended well. -/
theorem finished_of_stopped {outcome : Except Failure Unit} {s : Server}
    (h : Invariant settings (.untilExit fault ms) taken ⟨.stopped outcome, s, w, out⟩)
    (hs : s.isClosed = true) :
    (session settings (.untilExit fault ms)).ending = .finished := by
  have hending := (h.session_eq (.inr ⟨outcome, rfl⟩)).1
  rw [hending]
  cases s with
  | serving outbox session => cases hs
  | joiningReader => exact h.server
  | joiningWriter => exact h.server

theorem joinsFailed {f : Failure}
    (h : Invariant settings (.untilExit fault ms) taken
      ⟨.stopped (.error f), .joiningReader, w, out⟩) :
    (Process.exited (.error f) out).Sound settings (.untilExit fault ms) := by
  have hresult := result_of_finished (h.finished_of_stopped rfl)
  exact ⟨h.reader.2.trans hresult.symm, nofun⟩

theorem joinsWriter
    (h : Invariant settings (.untilExit fault ms) taken ⟨r, .joiningWriter, .stopped, out⟩) :
    (Process.exited (.ok ()) out).Sound settings (.untilExit fault ms) := by
  have hr : r = .stopped (.ok ()) := h.joined rfl
  subst hr
  have hresult := result_of_finished (h.finished_of_stopped rfl)
  refine ⟨h.reader.2.trans hresult.symm, fun _ => ?_⟩
  have hsent := (h.session_eq (.inr ⟨_, rfl⟩)).2
  have houtput := h.output
  simp only [Writer.pending, Server.outbox, List.append_nil, List.flatMap_nil] at houtput
  rw [hsent, houtput]

end Invariant

/-! ## Steps -/

/-- A server with nothing to send goes on, together with the reader or alone. -/
theorem exists_step_serving (settings : Settings) (r : Reader) (session : Session.State)
    (w : Writer) (out : List UInt8) :
    ∃ y, Threads.Step settings ⟨r, .serving [] session, w, out⟩ y := by
  obtain ⟨phase, link⟩ := session
  cases hphase : phase.isEnded with
  | true =>
      obtain ⟨e, rfl⟩ := (Phase.isEnded_iff phase).1 hphase
      cases e with
      | finished => exact ⟨_, .close r link w out⟩
      | failed f => exact ⟨_, .fail r f link w out⟩
  | false =>
      cases r with
      | reading ms fault =>
          cases ms with
          | nil => exact ⟨_, .readEnd fault _ w out⟩
          | cons m ms => exact ⟨_, .read m ms fault _ w out⟩
      | offering m ms fault => exact ⟨_, .take m ms fault ⟨phase, link⟩ w out hphase⟩
      | leaving => exact ⟨_, .leave _ w out⟩
      | stopped outcome => exact ⟨_, .disconnect outcome ⟨phase, link⟩ w out hphase⟩

/-- Whatever steps, the invariant holds on, or the run is over with its outcome. -/
theorem Invariant.step {taken : List Message} {x : Threads} {y : Process}
    (h : Invariant settings (.untilExit fault ms) taken x) (hs : Threads.Step settings x y) :
    y.Sound settings (.untilExit fault ms) := by
  cases hs with
  | read m ms' fault' s w out => exact ⟨taken, h.reads nofun h.reader nofun⟩
  | readEnd fault' s w out =>
      refine ⟨taken, h.reads nofun ?_ (fun _ => rfl)⟩
      have hreader := h.reader
      simp only [Reader.Completes, Delivery.untilExit_nil, List.append_nil] at hreader
      rw [hreader]
      exact ⟨rfl, rfl⟩
  | leave s w out =>
      refine ⟨taken, h.reads nofun ?_ (fun _ => rfl)⟩
      rw [show Delivery.untilExit fault ms = ⟨taken, none⟩ from h.reader]
      exact ⟨rfl, rfl⟩
  | refuse m ms' fault' s w out hclosed =>
      -- a server that has closed its ends has a reader with nothing to hand over
      cases s with
      | serving outbox session => cases hclosed
      | joiningReader => cases h.finished trivial
      | joiningWriter => cases h.finished trivial
  | take m ms' fault' session w out hlive => exact ⟨taken ++ [m], h.takes hlive⟩
  | disconnect outcome session w out hlive => exact ⟨taken, h.notices hlive⟩
  | send r m outbox session out => exact ⟨taken, h.sends⟩
  | write r s m out => exact ⟨taken, h.writes⟩
  | fail r f link w out => exact h.fails
  | close r link w out => exact ⟨taken, h.closes rfl⟩
  | joinReader w out => exact ⟨taken, h.joins⟩
  | joinFailed f w out => exact h.joinsFailed
  | stopWriting r s out hclosed => exact ⟨taken, h.stopsWriting hclosed⟩
  | joinWriter r out => exact h.joinsWriter

/-- No deadlock: as long as the run is not over, some thread can step. -/
theorem Invariant.exists_step {d : Delivery} {taken : List Message} {x : Threads}
    (h : Invariant settings d taken x) : ∃ y, Threads.Step settings x y := by
  obtain ⟨r, s, w, out⟩ := x
  -- a writer with a message can always put it on the output
  cases w with
  | writing m => exact ⟨_, .write r s m out⟩
  | idle =>
      cases s with
      | serving outbox session =>
          cases outbox with
          | cons m outbox => exact ⟨_, .send r m outbox session out⟩
          | nil => exact exists_step_serving settings r session .idle out
      | joiningReader => exact ⟨_, .stopWriting r .joiningReader out rfl⟩
      | joiningWriter => exact ⟨_, .stopWriting r .joiningWriter out rfl⟩
  | stopped =>
      cases s with
      | serving outbox session => cases h.writer rfl
      | joiningReader =>
          cases r with
          | reading ms' fault' => cases h.finished trivial
          | offering m ms' fault' => cases h.finished trivial
          | leaving => exact ⟨_, .leave _ _ _⟩
          | stopped outcome =>
              cases outcome with
              | ok _ => exact ⟨_, .joinReader _ _⟩
              | error f => exact ⟨_, .joinFailed f _ _⟩
      | joiningWriter => exact ⟨_, .joinWriter r out⟩

end

end LspAdapter.Program
