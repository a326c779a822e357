/-!
# Text without terminal control sequences

What a terminal would show of a text: escape sequences are left out, and so are
control characters other than white space.
-/

namespace LspAdapter.Text.Terminal

inductive Mode
  | ground
  | escape
  /-- After an escape character and an intermediate one. -/
  | intermediate
  /-- In a control sequence, which ends at its first letter. -/
  | control
  /-- In a command string, which ends at a bell. -/
  | command
  /-- In a string that only another control ends. -/
  | device
  deriving DecidableEq, Repr

/-- Whether a character is ASCII white space, which is shown outside of
strings. -/
def isSpace (c : Char) : Bool :=
  c = ' ' || c = '\t' || c = '\n' || c = '\x0c' || c = '\r'

/-- Where a character leads from inside a sequence, the controls that end
every sequence aside. -/
def Mode.follow (m : Mode) (c : Char) : Mode :=
  match m with
  | .ground => .ground
  | .escape =>
    if c = '[' then .control
    else if c = ']' then .command
    else if c = 'P' || c = 'X' || c = '^' || c = '_' then .device
    else if ' ' ≤ c && c ≤ '/' then .intermediate
    else if '0' ≤ c && c ≤ '~' then .ground
    else .escape
  | .intermediate => if '0' ≤ c && c ≤ '~' then .ground else .intermediate
  | .control => if '@' ≤ c && c ≤ '~' then .ground else .control
  | .command => if c = '\x07' then .ground else .command
  | .device => .device

def Mode.shows (m : Mode) (c : Char) : Bool :=
  match m with
  | .ground => isSpace c || (' ' ≤ c && c ≠ '\x7f')
  | .escape | .intermediate | .control => isSpace c && c ≠ ' '
  | .command | .device => false

def plainFrom (m : Mode) : List Char → List Char
  | [] => []
  | c :: cs =>
    if c = '\x1b' then plainFrom .escape cs
    else if c = '\x18' || c = '\x1a' then plainFrom .ground cs
    else if m.shows c then c :: plainFrom .ground cs
    else plainFrom (m.follow c) cs

def plain (s : String) : String :=
  String.ofList (plainFrom .ground s.toList)

end LspAdapter.Text.Terminal
