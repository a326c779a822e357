import LspAdapter.CommandLine.Argument
import LspAdapter.CommandLine.Flag
import LspAdapter.Text.Terminal
/-!
# Refused command lines

Why a command line is refused, and the first line of what is said about it.
-/

namespace LspAdapter.CommandLine

open Text (Terminal.plain)

inductive Refusal
  /-- The flag that chooses the channel is missing. -/
  | missingStdio
  /-- An argument is neither a flag nor a value. -/
  | unexpected (shown : String)
  | missingValue (flag : ValueFlag)
  /-- A flag that takes no value was given one. -/
  | excessValue (flag : Flag) (shown : String)
  | repeated (flag : Flag)
  | notUtf8
  deriving DecidableEq, Repr

namespace Refusal

def text : Refusal → String
  | .missingStdio => "the following required arguments were not provided:"
  | .unexpected shown => "unexpected argument '" ++ Terminal.plain shown ++ "' found"
  | .missingValue f => "a value is required for '" ++ f.usage ++ "' but none was supplied"
  | .excessValue f shown =>
    "unexpected value '" ++ Terminal.plain shown ++ "' for '" ++ f.usage ++
      "' found; no more were expected"
  | .repeated f => "the argument '" ++ f.usage ++ "' cannot be used multiple times"
  | .notUtf8 => "invalid UTF-8 was detected in one or more arguments"

def message (r : Refusal) : String :=
  String.ofList (("error: " ++ r.text).toList.takeWhile (· ≠ '\n'))

def status : Nat :=
  2

end Refusal

end LspAdapter.CommandLine
