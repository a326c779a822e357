import LspAdapter.CommandLine.Usage
import LspAdapter.Framing.Delivery
import LspAdapter.Program.LogFile
import LspAdapter.Program.Report
import LspAdapter.Session.Run
/-!
# A run of the program

From the command line and all of the input follow the exit status, the messages
on the output, the lines on the error channel and the journal in its file.

The input is read beside the session, which only sees that no more messages
come.  So a fault of the input shows in the end: once the session has ended
well, the outcome of reading is asked for.  Time is not modelled: a wait ends
with what is waited for or with the end of the input, and never for its length.
-/

namespace LspAdapter.Program

open CommandLine (Argument)
open Framing (Delivery)
open Journal (Record)
open Session (Transcript)

/-! ## Outcomes -/

def requireChannel (a : Arguments) : Except Failure Unit :=
  if a.stdio then .ok () else .error .noChannel

/-- How reading the input ended, asked by a session that left some messages
unread. -/
def readerOutcome (fault : Option Framing.Fault) (unread : Nat) : Except Failure Unit :=
  if 0 < unread then .error .undelivered
  else
    match fault with
    | some f => .error (.input f)
    | none => .ok ()

def outcome (ending : Session.Ending) (fault : Option Framing.Fault) (unread : Nat) :
    Except Failure Unit :=
  match ending with
  | .failed f => .error (.session f)
  | .finished => readerOutcome fault unread

/-! ## The journal of a run -/

def openingRecords (processId : String) (settings : Settings) : List Record :=
  [⟨.info, .program, "typescript_language_server - v" ++ CommandLine.programVersion⟩,
    ⟨.info, .program, "PID: " ++ processId⟩,
    ⟨.debug, .program, "config: " ++ settings.toJson.compact⟩]

def closingRecord : Record :=
  ⟨.info, .connection, "connection closed"⟩

def closingRecords (o : Except Failure Unit) : List Record :=
  match o with
  | .ok () => [closingRecord]
  | .error _ => []

def records (processId : String) (settings : Settings) (d : Delivery) (t : Transcript) :
    List Record :=
  openingRecords processId settings ++ t.records ++
    closingRecords (outcome t.ending d.fault t.unread)

/-! ## Runs -/

/-- The session of a run, whose client receives everything. -/
def session (settings : Settings) (d : Delivery) : Transcript :=
  Session.transcript settings .sound d.messages

/-- The report of a run that has sent some messages, made some records and come to an
outcome, with the journal in a file or on the error channel. -/
def reportOf (settings : Settings) (warning : Option Warning) (location : Option Location)
    (sent : List Message) (rs : List Record) (o : Except Failure Unit) : Report :=
  let journal := (Journal.admitted settings.messageLevel rs).map Passage.ofRecord
  { status := exitStatus o
    printed := match o with
      | .ok () => some (.messages sent)
      | .error _ => none
    errors := warningPassages warning ++ (if location.isNone then journal else []) ++
      failurePassages o
    journal := location.map (·, journal) }

def serve (processId : String) (settings : Settings) (warning : Option Warning)
    (location : Option Location) (d : Delivery) : Report :=
  let t := session settings d
  reportOf settings warning location t.sent (records processId settings d t)
    (outcome t.ending d.fault t.unread)

def start (processId : String) (a : Arguments) (d : Delivery) : Report :=
  match requireChannel a with
  | .error f => ⟨exitStatus (.error f), none, failurePassages (.error f), none⟩
  | .ok () =>
    let (settings, warning) := Settings.resolve a
    match a.logDirectory.map Location.ofDirectory with
    | some .unusable => ⟨Report.crashedStatus, none, warningPassages warning, none⟩
    | location => serve processId settings warning location d

/-- Runs the program with a command line, its own name in front. -/
def run (processId : String) (argv : List Argument) (input : List UInt8) : Report :=
  match CommandLine.parse argv with
  | .ok a => start processId a (Framing.deliver input)
  | .error (.answered a) => ⟨0, some (.text (a.text argv)), [], none⟩
  | .error (.refused r) => ⟨CommandLine.Refusal.status, none, [.plain r.message], none⟩

end LspAdapter.Program
