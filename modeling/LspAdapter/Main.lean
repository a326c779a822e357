import LspAdapter.Program.Live
/-!
# The command

Connects a run of the program with the system: messages go out as soon as the
session sends them, and input is read only as far as the next message needs it.
-/

namespace LspAdapter.Command

open Journal (Record)
open Program (Failure Live Location Passage)
open Session (Effect State)

def processId : IO String := do
  try
    let line ← IO.FS.readFile "/proc/self/stat"
    return String.ofList (line.toList.takeWhile Char.isDigit)
  catch _ => return "?"

def writePassages (stream : IO.FS.Stream) (ps : List Passage) : IO Unit := do
  for p in ps do
    stream.putStr p.text
  stream.flush

/-- A command that is connected with its surroundings. -/
structure Surroundings where
  settings : Settings
  input : IO.FS.Stream
  output : IO.FS.Stream
  errors : IO.FS.Stream
  journal : IO.FS.Stream

namespace Surroundings

def write (s : Surroundings) (rs : List Record) : IO Unit :=
  writePassages s.journal ((Journal.admitted s.settings.messageLevel rs).map .ofRecord)

def send (s : Surroundings) (ms : List Message) : IO Unit := do
  for m in ms do
    s.output.write ⟨(Framing.frameOf m).toArray⟩
    s.output.flush

def present (s : Surroundings) (e : Effect) : IO Unit := do
  s.write e.records
  s.send e.sent

def finish (s : Surroundings) (o : Except Failure Unit) : IO UInt32 := do
  s.write (Program.closingRecords o)
  writePassages s.errors (Program.failurePassages o)
  return .ofNat (Program.exitStatus o)

partial def loop (s : Surroundings) (x : Live) : IO UInt32 := do
  match x.turn s.settings with
  | .takes effect next =>
    s.present effect
    loop s next
  | .stops o => s.finish o
  | .waits o =>
    let more ← s.input.read 4096
    if more.isEmpty then s.finish o else loop s (x.feed more.toList)

end Surroundings

/-- The stream of the journal: a file in the named directory, or the error
channel. -/
def openJournal (directory : Option String) : IO IO.FS.Stream := do
  match directory with
  | none => IO.getStderr
  | some d =>
    let d := if d.isEmpty then "." else d
    IO.FS.createDirAll d
    return .ofHandle (← IO.FS.Handle.mk (d ++ "/" ++ Program.logFileName) .append)

def serve (a : Arguments) : IO UInt32 := do
  let errors ← IO.getStderr
  match Program.requireChannel a with
  | .error f =>
    writePassages errors (Program.failurePassages (.error f))
    return .ofNat (Program.exitStatus (.error f))
  | .ok () =>
    let (settings, warning) := Settings.resolve a
    writePassages errors (Program.warningPassages warning)
    let journal? ← (openJournal a.logDirectory).toBaseIO
    match journal? with
    | .error e =>
      errors.putStrLn (toString e)
      return .ofNat Program.Report.crashedStatus
    | .ok journal =>
      let s : Surroundings := ⟨settings, ← IO.getStdin, ← IO.getStdout, errors, journal⟩
      s.write (Program.openingRecords (← processId) settings)
      s.present (State.start .sound).1
      s.loop .start

end LspAdapter.Command

open LspAdapter (CommandLine.Argument.ofText CommandLine.parse CommandLine.programName)

def main (args : List String) : IO UInt32 := do
  let argv := (CommandLine.programName :: args).map CommandLine.Argument.ofText
  match CommandLine.parse argv with
  | .ok a => LspAdapter.Command.serve a
  | .error h =>
    match h with
    | .answered _ => IO.print (h.message argv)
    | .refused _ => IO.eprintln (h.message argv)
    return .ofNat h.status
