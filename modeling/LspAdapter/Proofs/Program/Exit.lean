import LspAdapter.Proofs.CommandLine.Step
import LspAdapter.Proofs.Framing.RoundTrip
import LspAdapter.Proofs.Message.Wire
import LspAdapter.Proofs.Program.Threads
/-!
# How a run exits

Every step of a thread lowers a weight, so the threads come to an end in whatever
order they step.  By the invariant they end with one and the same outcome, which
is also that of a run without threads.
-/

namespace LspAdapter.Program

open CommandLine (Argument)
open Framing (Delivery Readable frameOf frameText)
open Session (Phase)

/-! ## Weights -/

/-- A message to read outweighs all that the server and the writer do about it. -/
def Reader.weight : Reader → Nat
  | .reading ms _ => 12 * ms.length + 3
  | .offering _ ms _ => 12 * ms.length + 14
  | .leaving => 1
  | .stopped _ => 0

def Server.weight : Server → Nat
  | .serving outbox session => 3 * outbox.length + (if session.phase.isEnded then 3 else 4)
  | .joiningReader => 2
  | .joiningWriter => 1

def Writer.weight : Writer → Nat
  | .writing _ => 2
  | .idle => 1
  | .stopped => 0

def Threads.weight (x : Threads) : Nat :=
  x.reader.weight + x.server.weight + x.writer.weight

def Process.weight : Process → Nat
  | .running x => x.weight
  | .exited _ _ => 0

variable {settings : Settings}

theorem Server.weight_serving_le (outbox : List Message) (session : Session.State) :
    (Server.serving outbox session).weight ≤ 3 * outbox.length + 4 := by
  simp only [Server.weight]
  split <;> omega

theorem Server.weight_live {session : Session.State} (h : session.phase.isEnded = false) :
    (Server.serving [] session).weight = 4 := by
  simp [Server.weight, h]

theorem Server.weight_ended (e : Session.Ending) (link : Session.Link) :
    (Server.serving [] ⟨.ended e, link⟩).weight = 3 := rfl

theorem Reader.weight_next_le (m : Message) (ms : List Message)
    (fault : Option Framing.Fault) : (Reader.next m ms fault).weight ≤ 12 * ms.length + 3 := by
  unfold Reader.next
  split
  · simp only [Reader.weight]
    omega
  · exact Nat.le_refl _

theorem length_sent_le {d : Delivery} {taken : List Message} {r : Reader} {w : Writer}
    {out : List UInt8} {outbox : List Message} {session : Session.State} (m : Message)
    (h : Invariant settings d taken ⟨r, .serving outbox session, w, out⟩)
    (hlive : session.phase.isEnded = false) :
    (session.step settings m).1.sent.length ≤ 2 := by
  have hsession := h.phase_eq hlive
  rw [hsession] at hlive ⊢
  rw [(Session.step_sound settings _ m).1, Session.Reaction.messages, List.length_map]
  exact (Session.move_react settings _ m hlive).length_le

theorem Invariant.weight_lt {d : Delivery} {taken : List Message} {x : Threads} {y : Process}
    (h : Invariant settings d taken x) (hs : Threads.Step settings x y) :
    y.weight < x.weight := by
  cases hs with
  | take m ms fault session w out hlive =>
      have hsent := length_sent_le m h hlive
      have hreader := Reader.weight_next_le m ms fault
      have hserver := Server.weight_serving_le (session.step settings m).1.sent
        (session.step settings m).2
      have hoffering : (Reader.offering m ms fault).weight = 12 * ms.length + 14 := rfl
      simp only [Process.weight, Threads.weight, Server.weight_live hlive, hoffering]
      omega
  | disconnect outcome session w out hlive =>
      simp only [Process.weight, Threads.weight, Server.weight_live hlive, Server.weight_ended]
      omega
  | _ =>
      simp only [Process.weight, Threads.weight, Reader.weight, Server.weight, Writer.weight,
        Phase.isEnded, List.length_cons, List.length_nil, if_true]
      omega

/-- Each step of a run is paid for with its weight, and the run is sound. -/
theorem steps_sound {ms : List Message} {fault : Option Framing.Fault} {n : Nat} {y : Process}
    (h : Threads.Steps settings (.start ms fault) n y) :
    y.Sound settings (.untilExit fault ms) ∧ n + y.weight ≤ 12 * ms.length + 8 := by
  induction h with
  | refl =>
      have hweight : (Threads.start ms fault).weight = 12 * ms.length + 3 + 4 + 1 := rfl
      refine ⟨⟨[], invariant_start settings ms fault⟩, ?_⟩
      simp only [Process.weight, hweight]
      omega
  | step hsteps hstep ih =>
      obtain ⟨⟨taken, hinvariant⟩, hweight⟩ := ih
      have hlt := hinvariant.weight_lt hstep
      simp only [Process.weight] at hweight
      exact ⟨hinvariant.step hstep, by omega⟩

/-- Any run can be gone on with until it is over. -/
theorem exists_exit {ms : List Message} {fault : Option Framing.Fault} {n : Nat} {x : Threads}
    (h : Threads.Steps settings (.start ms fault) n (.running x)) :
    ∃ n' o output, Threads.Steps settings (.start ms fault) n' (.exited o output) := by
  induction hw : x.weight using Nat.strongRecOn generalizing n x with
  | ind weight ih =>
      obtain ⟨⟨taken, hinvariant⟩, -⟩ := steps_sound h
      obtain ⟨y, hstep⟩ := hinvariant.exists_step
      cases y with
      | running x' =>
          have hlt : x'.weight < weight := by
            rw [← hw]
            exact hinvariant.weight_lt hstep
          exact ih x'.weight hlt (h.step hstep) rfl
      | exited o output => exact ⟨n + 1, o, output, h.step hstep⟩

/-! ## Runs without threads -/

/-- A command line is only accepted with a channel. -/
theorem stdio_of_parse {argv : List Argument} {a : Arguments}
    (h : CommandLine.parse argv = .ok a) : a.stdio = true := by
  obtain ⟨s, -, hfinish⟩ := bind_eq_ok_iff.1 h
  exact (CommandLine.Scan.finish_eq_ok_iff.1 hfinish).2

theorem exitStatus_eq_zero_iff (o : Except Failure Unit) : exitStatus o = 0 ↔ o = .ok () := by
  cases o with
  | ok _ => exact ⟨fun _ => rfl, fun _ => rfl⟩
  | error f =>
      simp only [exitStatus]
      cases f.isCrash <;> simp [Report.crashedStatus, Report.failedStatus]

/-- A run of an accepted command line is a session with what its input delivers, unless the
directory of the journal cannot be used. -/
theorem run_eq_serve (processId : String) {argv : List Argument} {a : Arguments}
    (hargs : CommandLine.parse argv = .ok a)
    (hdir : a.logDirectory.map Location.ofDirectory ≠ some .unusable) (input : List UInt8) :
    run processId argv input = serve processId (Settings.resolve a).1 (Settings.resolve a).2
      (a.logDirectory.map Location.ofDirectory) (Framing.deliver input) := by
  have hrun : run processId argv input = start processId a (Framing.deliver input) := by
    unfold run
    rw [hargs]
  rw [hrun]
  unfold start requireChannel
  rw [stdio_of_parse hargs, if_pos rfl]
  cases hlocation : a.logDirectory.map Location.ofDirectory with
  | none => rfl
  | some location =>
      rw [hlocation] at hdir
      cases location with
      | unusable => exact absurd rfl hdir
      | below path => rfl
      | elsewhere => rfl

theorem serve_report (processId : String) (warning : Option Warning)
    (location : Option Location) (d : Delivery) :
    (serve processId settings warning location d).status = exitStatus (result settings d) ∧
      (result settings d = .ok () →
        (serve processId settings warning location d).printed =
          some (.messages (session settings d).sent)) := by
  refine ⟨rfl, fun hok => ?_⟩
  unfold result at hok
  simp only [serve, reportOf, hok]

theorem run_report (processId : String) {argv : List Argument} {a : Arguments}
    (hargs : CommandLine.parse argv = .ok a)
    (hdir : a.logDirectory.map Location.ofDirectory ≠ some .unusable) {ms : List Message}
    {fault : Option Framing.Fault} {bytes : List UInt8}
    (hbytes : Framing.deliver bytes = ⟨ms, fault⟩) :
    (run processId argv bytes).status =
        exitStatus (result (Settings.resolve a).1 (.untilExit fault ms)) ∧
      (result (Settings.resolve a).1 (.untilExit fault ms) = .ok () →
        (run processId argv bytes).printed =
          some (.messages (session (Settings.resolve a).1 (.untilExit fault ms)).sent)) := by
  have hdelivery : Framing.deliver bytes = .untilExit fault ms := by
    have h := Delivery.untilExit_deliver bytes
    rw [hbytes] at h
    rw [hbytes, h]
  rw [run_eq_serve processId hargs hdir, hdelivery]
  exact serve_report processId _ _ _

/-! ## All runs -/

/-- Whatever order the threads step in, a run of an accepted command line comes to
an end, after a bounded number of steps and with no thread waiting in vain.  It
exits with status zero if and only if no fault of the input shows in front of
`exit` and the session on what is delivered ends well; then the output is made of the
frames of all that the session sent, in order.  Once the session has ended well the
reader needs no more input, and never fails to hand over a message. -/
theorem threads_exit (processId : String) {argv : List Argument} {a : Arguments}
    (hargs : CommandLine.parse argv = .ok a)
    (hdir : a.logDirectory.map Location.ofDirectory ≠ some .unusable)
    (ms : List Message) (fault : Option Framing.Fault) (n : Nat) (y : Process)
    (hsteps : Threads.Steps (Settings.resolve a).1 (.start ms fault) n y) :
    n ≤ 12 * ms.length + 8 ∧
      match y with
      | .running x =>
          (∃ z, Threads.Step (Settings.resolve a).1 x z) ∧
            (x.server.IsFinished →
              x.reader.isDone = true ∧ x.reader ≠ .stopped (.error .undelivered))
      | .exited o output =>
          let t := session (Settings.resolve a).1 (.untilExit fault ms)
          (exitStatus o = 0 ↔
            (fault = none ∨ ∃ m ∈ ms, m.isExit = true) ∧ t.ending = .finished) ∧
          (exitStatus o = 0 →
            output = t.sent.flatMap fun m => (frameText m).toUTF8.data.toList) ∧
          o ≠ .error .undelivered ∧
          ∀ bytes, Framing.deliver bytes = ⟨ms, fault⟩ →
            (run processId argv bytes).status = exitStatus o ∧
              (exitStatus o = 0 →
                (run processId argv bytes).printed = some (.messages t.sent)) := by
  obtain ⟨hsound, hweight⟩ := steps_sound hsteps
  refine ⟨by omega, ?_⟩
  cases y with
  | running x =>
      obtain ⟨taken, hinvariant⟩ := hsound
      refine ⟨hinvariant.exists_step, fun hfinished => ⟨hinvariant.finished hfinished, ?_⟩⟩
      exact hinvariant.reader.ne_undelivered
  | exited o output =>
      obtain ⟨hresult, houtput⟩ := hsound
      rw [funext Framing.frameOf_eq] at houtput
      dsimp only
      rw [exitStatus_eq_zero_iff]
      refine ⟨?_, houtput, ?_, ?_⟩
      · rw [hresult, result_eq_ok_iff, Delivery.untilExit_fault_eq_none_iff]
      · rw [hresult]
        exact result_ne_undelivered
      · intro bytes hbytes
        rw [hresult]
        exact run_report processId hargs hdir hbytes

def plainCommandLine : List Argument :=
  [.ofText "typescript-language-server", .ofText "--stdio"]

/-- A client that makes the handshake and then leaves. -/
def briefClient : List Message :=
  [.request ⟨.number 1, "initialize", .object [("capabilities", .object [])]⟩,
    .notification ⟨"initialized", .object []⟩, .notification ⟨"exit", .null⟩]

theorem readable_briefClient : ∀ m ∈ briefClient, Readable m := by
  have hparams : (Json.Value.object [("capabilities", .object [])]).Fits 127 := by
    refine .object 126 _ (by decide) ?_
    rw [List.forall_mem_singleton]
    exact .object 125 _ (by decide) nofun
  have hfits : ∀ m ∈ briefClient, m.toJson.Fits Json.depthLimit := by
    unfold briefClient
    rw [List.forall_mem_cons, List.forall_mem_cons, List.forall_mem_singleton]
    exact ⟨Message.fits_request hparams,
      Message.fits_notification (.object 126 _ (by decide) nofun),
      Message.fits_notification (.null 127)⟩
  have hread : ∀ m ∈ briefClient, Message.ofJson? m.toJson = some m := by
    unfold briefClient
    rw [List.forall_mem_cons, List.forall_mem_cons, List.forall_mem_singleton]
    exact ⟨rfl, ofJson?_notification rfl, ofJson?_notification rfl⟩
  have hlength : ∀ m ∈ briefClient,
      (Text.Utf8.encode m.wire).length < Framing.excessiveLength := by
    decide +kernel
  intro m hm
  exact ⟨(Message.carriedAs_fields (hfits m hm) (hread m hm)).message, hlength m hm⟩

theorem threads_exit_briefClient :
    let a : Arguments := { Arguments.none with stdio := true }
    let t := session (Settings.resolve a).1 (.untilExit none briefClient)
    let bytes := briefClient.flatMap frameOf
    ∃ output,
      Threads.Steps (Settings.resolve a).1 (.start briefClient none) 17
          (.exited (.ok ()) output) ∧
        17 ≤ 12 * briefClient.length + 8 ∧ t.ending = .finished ∧
        (output = t.sent.flatMap fun m => (frameText m).toUTF8.data.toList) ∧
        Framing.deliver bytes = ⟨briefClient, none⟩ ∧
        (run "1" plainCommandLine bytes).status = 0 ∧
        (run "1" plainCommandLine bytes).printed = some (.messages t.sent) := by
  intro a t bytes
  have hargs : CommandLine.parse plainCommandLine = .ok a := rfl
  have hdir : a.logDirectory.map Location.ofDirectory ≠ some .unusable := nofun
  -- the reply to `initialize`, the two announcements, and then nothing more
  have hstart : Threads.Steps (Settings.resolve a).1 (.start briefClient none) 0 _ := .refl
  have htaken := (hstart.step (.read ..)).step (.take _ _ _ _ _ _ rfl)
  have hopened := (htaken.step (.send ..)).step (.write ..)
  have htaken' := (hopened.step (.read ..)).step (.take _ _ _ _ _ _ rfl)
  have hannounced := (((htaken'.step (.send ..)).step (.write ..)).step (.send ..)).step (.write ..)
  have hleft := ((hannounced.step (.read ..)).step (.take _ _ _ _ _ _ rfl)).step (.leave ..)
  have hjoined := (hleft.step (.close ..)).step (.joinReader ..)
  have hexited := (hjoined.step (.stopWriting _ _ _ rfl)).step (.joinWriter ..)
  have h := threads_exit "1" hargs hdir briefClient none 17 _ hexited
  obtain ⟨hsteps, hstatus, houtput, -, hrun⟩ := h
  have hdelivered : Framing.deliver bytes = ⟨briefClient, none⟩ :=
    Framing.deliver_frames readable_briefClient
  obtain ⟨hzero, hprinted⟩ := hrun bytes hdelivered
  exact ⟨_, hexited, hsteps, (hstatus.1 rfl).2, houtput rfl, hdelivered, hzero, hprinted rfl⟩

end LspAdapter.Program
