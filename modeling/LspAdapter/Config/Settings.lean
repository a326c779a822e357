import LspAdapter.Config.Arguments
import LspAdapter.Config.LeadingInteger
import LspAdapter.Config.LogLevel
import LspAdapter.Config.Sink
import LspAdapter.Config.Verbosity
import LspAdapter.Json.Printer
import LspAdapter.Text.Escaping
/-!
# Settings of a session

The command line arguments give the settings.  No value is refused: a log level
that is none gives the standard level and a warning, and a log file without a
verbosity gives the normal verbosity, since an empty log would be of no use.
-/

namespace LspAdapter

open Text (Escaping)

structure Settings where
  /-- The tsserver directory, if it is not to be found automatically. -/
  tsserverPath : Option String
  verbosity : Verbosity
  /-- The least grave message that is forwarded to the client. -/
  messageLevel : LogLevel
  deriving DecidableEq, Repr

structure Warning where
  value : String
  deriving DecidableEq, Repr

namespace Warning

/-- In a warning an apostrophe is escaped, since one encloses the value, and a
combining character only where it would join that apostrophe. -/
def escaping : Escaping :=
  ⟨Text.isPrintable, Text.isCombining, true, false⟩

def opening : String :=
  "Invalid '--log-level "

def closing : String :=
  "'. Falling back to 'info' level.\n"

/-- The warning in the pieces in which it is written, one for each character of
the value between the two fixed texts. -/
def pieces (w : Warning) : List String :=
  opening :: (escaping.write w.value.toList).map String.singleton ++ [closing]

def text (w : Warning) : String :=
  opening ++ escaping.text w.value ++ closing

end Warning

namespace Settings

def standard : Settings :=
  ⟨none, .off, .standard⟩

def resolveLevel : Option String → LogLevel × Option Warning
  | none => (.standard, none)
  | some value =>
    match (LeadingInteger.read? value).bind LogLevel.ofNumber? with
    | some level => (level, none)
    | none => (.standard, some ⟨value⟩)

def resolveVerbosity (name logFile : Option String) : Verbosity :=
  let named := (name.map Verbosity.ofName).getD .off
  if logFile.isSome && named = .off then .normal else named

def resolve (a : Arguments) : Settings × Option Warning :=
  let (level, warning) := resolveLevel a.logLevel
  (⟨a.tsserverPath, resolveVerbosity a.verbosity a.tsserverLogFile, level⟩, warning)

/-- The settings that the arguments give, with the warning written to a sink. A
sink that fails is left alone. -/
def resolveTo (sink : Sink) (a : Arguments) : Settings × Sink :=
  let (settings, warning) := resolve a
  match warning with
  | none => (settings, sink)
  | some w => (settings, (sink.putAll w.pieces).2)

def toJson (s : Settings) : Json.Value :=
  .object [
    ("tsserverPath", match s.tsserverPath with
      | none => .null
      | some p => .text p),
    ("tsserverLogVerbosity", .text s.verbosity.name),
    ("showMessageLevel", .text s.messageLevel.name)]

end Settings

end LspAdapter
