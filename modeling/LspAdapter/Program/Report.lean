import LspAdapter.Config.Settings
import LspAdapter.Journal
import LspAdapter.Program.Failure
import LspAdapter.Program.LogFile
/-!
# Reports of runs

What a run of the program does that can be seen from outside: its exit status, its
output, and what it writes to the error channel and to the file of its journal.

A digest of what was written is made for comparing runs.  It goes by lines, and of a
journal with debug records it keeps only those that begin a record or tell a failure,
since debug records of others come between.
-/

namespace LspAdapter.Program

open Journal (Record Severity)

inductive Printed
  | messages (ms : List Message)
  | text (s : String)

/-- What is written in one go: a record of some severity, or something else. -/
structure Passage where
  text : String
  severity : Option Severity
  deriving DecidableEq, Repr

def Passage.plain (text : String) : Passage :=
  ⟨text, none⟩

def Passage.ofRecord (r : Record) : Passage :=
  ⟨r.written, some r.severity⟩

structure Report where
  status : Nat
  /-- What is written to the output by a run that succeeds. -/
  printed : Option Printed
  /-- What is written to the error channel. What a crash itself says is not told, and
  of a refused command line only the first line. -/
  errors : List Passage
  /-- The file of the journal, if there is one, and what is written to it. -/
  journal : Option (Location × List Passage)

def Report.failedStatus : Nat := 1

def Report.crashedStatus : Nat := 101

def Report.isCrashed (r : Report) : Bool :=
  r.status = crashedStatus

def exitStatus : Except Failure Unit → Nat
  | .ok () => 0
  | .error f => if f.isCrash then Report.crashedStatus else Report.failedStatus

def failureMark : String := "Error: "

def warningPassages (w : Option Warning) : List Passage :=
  w.toList.map fun w => .plain w.text

/-- What is said of a failure that is not a crash. -/
def failurePassages (o : Except Failure Unit) : List Passage :=
  match o with
  | .ok () => []
  | .error f => if f.isCrash then [] else [.plain (failureMark ++ f.outline ++ "\n")]

/-! ## Digests -/

/-- A line, and whether a record begins with it. -/
structure Line where
  text : String
  heads : Bool

/-- The lines of a text; the last one need not be ended, and a carriage return
before the end of a line belongs to that end. -/
def textLines (cs : List Char) : List String :=
  let trim (l : List Char) : List Char := if l.getLast? = some '\r' then l.dropLast else l
  match (cs.splitOn '\n').reverse with
  | [] => []
  | last :: before =>
    (before.reverse.map fun l => String.ofList (trim l)) ++
      if last.isEmpty then [] else [String.ofList last]

def Passage.lines (p : Passage) : List Line :=
  match textLines p.text.toList with
  | [] => []
  | l :: ls => ⟨l, p.severity.isSome⟩ :: ls.map (⟨·, false⟩)

def digest (ps : List Passage) : List String :=
  let condensed := ps.any fun p => p.severity = some .debug
  let kept := (ps.flatMap Passage.lines).filter fun l =>
    !condensed || l.heads || failureMark.isPrefixOf l.text
  kept.map Line.text

def Report.complaints (r : Report) : List String :=
  digest r.errors

def Report.journals (r : Report) : List (String × List String) :=
  match r.journal with
  | some (.below path, ps) => [(path, digest ps)]
  | _ => []

end LspAdapter.Program
