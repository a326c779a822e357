import LspAdapter.Text.Utf8
/-!
# The file of the journal

A directory may be named for the journal.  It is made, its parents too, and the
journal goes to one file in it.  Which file that is shows from the path alone:
empty components and single dots drop out, and a double dot takes the component
before it away.  Of the paths from the root a few are the same everywhere; the
rest lead elsewhere.
-/

namespace LspAdapter.Program

def logFileName : String :=
  "typescript_language_server.log"

inductive Location
  /-- Below the current directory, at a path without empty or dotted
  components. -/
  | below (path : String)
  | elsewhere
  | unusable
  deriving DecidableEq, Repr

def components (path : String) : List (List Char) :=
  (path.toList.splitOn '/').filter fun c => c ≠ [] && c ≠ ['.']

def nameLimit : Nat :=
  255

def pathLimit : Nat :=
  4095

def tooLong (component : List Char) : Bool :=
  nameLimit < Text.Utf8.byteCount component

/-! ## Paths from the root -/

/-- What is known of a path from the root, whatever the machine. -/
inductive Landmark
  | current
  | root
  /-- A place where no directory can be made: a file, or among the tables of
  the system. -/
  | closed
  | unknown
  deriving DecidableEq, Repr

def systemFiles : List String :=
  ["passwd", "group", "hosts", "hostname", "resolv.conf", "shadow", "fstab", "os-release"]

def deviceFiles : List String :=
  ["null", "zero", "full", "random", "urandom", "tty", "ptmx", "console", "stdin", "stdout",
    "stderr", "fd"]

def landmark (path : List (List Char)) : Landmark :=
  match path.map String.ofList with
  | ["proc", "self", "cwd"] => .current
  | ["proc", "self", "root"] => .root
  | ["proc"] | ["proc", "self"] => .unknown
  | "proc" :: _ | "sys" :: _ :: _ => .closed
  | ["etc", name] => if systemFiles.contains name then .closed else .unknown
  | ["dev", name] => if deviceFiles.contains name then .closed else .unknown
  | _ => .unknown

/-- Whether a file can be made in a directory, given by its path from the
root. -/
def isOpen (path : List (List Char)) : Bool :=
  match path with
  | first :: _ => first ≠ "proc".toList && first ≠ "sys".toList
  | [] => true

/-! ## Walks -/

/-- A place on the way along a path, its components in reverse. -/
inductive Place
  | current (before : List (List Char))
  | root (before : List (List Char))

/-- The place after one more component, if there is one. What lies above the
current directory is not known, so the way up from it is taken to end at the
root. -/
def Place.step? (c : List Char) : Place → Option Place
  | .current before =>
    if c = ['.', '.'] then
      match before with
      | [] => some (.root [])
      | _ :: before => some (.current before)
    else some (.current (c :: before))
  | .root before =>
    if c = ['.', '.'] then some (.root before.tail)
    else
      match landmark (c :: before).reverse with
      | .current => some (.current [])
      | .root => some (.root [])
      | .closed => none
      | .unknown => some (.root (c :: before))

def Place.location : Place → Location
  | .current before =>
    let path := before.reverse.foldr (fun c rest => c ++ '/' :: rest) logFileName.toList
    .below (String.ofList path)
  | .root before => if isOpen before.reverse then .elsewhere else .unusable

def filePath (directory : List Char) : List Char :=
  let separator := if directory.isEmpty || directory.getLast? = some '/' then [] else ['/']
  directory ++ separator ++ logFileName.toList

def Location.ofDirectory (directory : String) : Location :=
  let cs := components directory
  let start : Place := if directory.toList.head? = some '/' then .root [] else .current []
  if cs.any tooLong || pathLimit < Text.Utf8.byteCount (filePath directory.toList) then .unusable
  else
    match cs.foldlM (fun place c => place.step? c) start with
    | some place => place.location
    | none => .unusable

end LspAdapter.Program
