import LspAdapter.Config.LogLevel
import LspAdapter.Text.Escaping
/-!
# The journal of the program

Records about the course of a session, apart from what is sent to the client.
The level of the settings filters them, too: `log` admits the debug records.
-/

namespace LspAdapter

namespace Journal

inductive Severity
  | error
  | warn
  | info
  | debug
  deriving DecidableEq, Repr

inductive Origin
  | program
  | connection
  | handshake
  deriving DecidableEq, Repr

structure Record where
  severity : Severity
  origin : Origin
  text : String
  deriving DecidableEq, Repr

def threshold : LogLevel → Severity
  | .error => .error
  | .warn => .warn
  | .info => .info
  | .log => .debug

namespace Severity

def rank : Severity → Nat
  | .error => 1
  | .warn => 2
  | .info => 3
  | .debug => 4

def name : Severity → String
  | .error => "ERROR"
  | .warn => "WARN"
  | .info => "INFO"
  | .debug => "DEBUG"

def filterName : Severity → String
  | .error => "error"
  | .warn => "warn"
  | .info => "info"
  | .debug => "debug"

end Severity

def Origin.name : Origin → String
  | .program => "typescript_language_server"
  | .connection => "typescript_language_server::connection"
  | .handshake => "typescript_language_server::method::initialize"

def admits (level : LogLevel) (r : Record) : Bool :=
  r.severity.rank ≤ (threshold level).rank

def admitted (level : LogLevel) (rs : List Record) : List Record :=
  rs.filter (admits level)

def Record.heading (r : Record) : String :=
  r.severity.name ++ " " ++ r.origin.name ++ ": "

def Record.line (r : Record) : String :=
  r.heading ++ r.text

/-- How a character is written to the journal. Those that steer a terminal are
written by their code. -/
def journalChar (c : Char) : List Char :=
  match c with
  | '\x1b' => ['\\', 'x', '1', 'b']
  | '\x07' => ['\\', 'x', '0', '7']
  | '\x08' => ['\\', 'x', '0', '8']
  | '\x0c' => ['\\', 'x', '0', 'c']
  | '\x7f' => ['\\', 'x', '7', 'f']
  | c =>
    if 0x80 ≤ c.toNat ∧ c.toNat ≤ 0x9F then Text.Escaping.codePoint c else [c]

/-- What a record is in the journal. Its text may take several lines. -/
def Record.written (r : Record) : String :=
  r.heading ++ String.ofList (r.text.toList.flatMap journalChar) ++ "\n"

end Journal

end LspAdapter
