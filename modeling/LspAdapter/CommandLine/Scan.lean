import LspAdapter.CommandLine.Refusal
/-!
# Scanning a command line

Arguments are read from left to right.  A flag that awaits its value stays
pending until another known flag or the end is reached; only then is it settled,
and only then do a missing value, a repetition and a value that is not UTF-8
show.  The first argument that decides the outcome ends the scan.
-/

namespace LspAdapter.CommandLine

structure Pending where
  flag : ValueFlag
  value : Option Argument
  deriving DecidableEq, Repr

/-- How far a scan has come: the settled flags, the pending one, and whether
the marker was passed after which no flag is known. -/
structure Scan where
  settled : Arguments
  pending : Option Pending
  closed : Bool
  deriving DecidableEq, Repr

inductive Answer
  | shortHelp
  | longHelp
  | version
  deriving DecidableEq, Repr

inductive Halt
  | answered (a : Answer)
  | refused (r : Refusal)
  deriving DecidableEq, Repr

namespace Scan

def start : Scan :=
  ⟨.none, none, false⟩

/-- Settles a flag with its value: a repetition is found before bad bytes. -/
def settle (s : Arguments) (f : ValueFlag) (v : Argument) : Except Halt Arguments :=
  if (f.get s).isSome then .error (.refused (.repeated (.value f)))
  else
    match v.text? with
    | none => .error (.refused .notUtf8)
    | some t => .ok (f.set t s)

def flush (s : Scan) : Except Halt Scan :=
  match s.pending with
  | none => .ok s
  | some ⟨f, none⟩ => .error (.refused (.missingValue f))
  | some ⟨f, some v⟩ => do
    let settled ← settle s.settled f v
    return ⟨settled, none, s.closed⟩

def awaitsAnything (s : Scan) : Bool :=
  match s.pending with
  | some ⟨f, none⟩ => f.takesAnything
  | _ => false

/-- Takes a word: the value of the pending flag, or out of place. -/
def word (s : Scan) (a : Argument) : Except Halt Scan :=
  match s.pending with
  | some ⟨f, none⟩ => .ok { s with pending := some ⟨f, some a⟩ }
  | _ => .error (.refused (.unexpected a.shown))

def long (s : Scan) (name : List UInt8) (value : Option Argument) : Except Halt Scan :=
  match (Text.Utf8.decode? name).bind Flag.named?, value with
  | none, _ => .error (.refused (.unexpected ("--" ++ Text.Utf8.lossy name)))
  | some (.value f), none => do
    let s ← s.flush
    return { s with pending := some ⟨f, none⟩ }
  | some (.value f), some v => do
    let s ← s.flush
    let settled ← settle s.settled f v
    return { s with settled }
  | some f, some v => .error (.refused (.excessValue f v.shown))
  | some .stdio, none => do
    let s ← s.flush
    if s.settled.stdio then .error (.refused (.repeated .stdio))
    else return { s with settled := { s.settled with stdio := true } }
  | some .help, none => do
    let _ ← s.flush
    .error (.answered .longHelp)
  | some .version, none => do
    let _ ← s.flush
    .error (.answered .version)

/-- Takes a group of short flags. The first letter decides; bytes that are no
letter are shown together. -/
def short (s : Scan) (letters : List UInt8) : Except Halt Scan :=
  match Text.Utf8.chunks letters with
  | .char 'h' :: _ => do
    let _ ← s.flush
    .error (.answered .shortHelp)
  | .char 'V' :: _ => do
    let _ ← s.flush
    .error (.answered .version)
  | .char c :: _ => .error (.refused (.unexpected ("-" ++ String.singleton c)))
  | _ => .error (.refused (.unexpected ("-" ++ Text.Utf8.lossy letters)))

def step (s : Scan) (a : Argument) : Except Halt Scan :=
  if s.closed then .error (.refused (.unexpected a.shown))
  else if s.awaitsAnything then s.word a
  else
    match a.spelling with
    | .terminator => .ok { s with closed := true }
    | .long name value => s.long name value
    | .short letters => s.short letters
    | .word => s.word a

/-- Ends a scan: the last flag is settled, and a channel must have been
chosen. -/
def finish (s : Scan) : Except Halt Arguments := do
  let s ← s.flush
  if s.settled.stdio then return s.settled
  else .error (.refused .missingStdio)

end Scan

def scan (args : List Argument) : Except Halt Arguments := do
  let s ← args.foldlM Scan.step Scan.start
  s.finish

def parse (argv : List Argument) : Except Halt Arguments :=
  scan argv.tail

end LspAdapter.CommandLine
