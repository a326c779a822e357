/-!
# Verbosity of the tsserver log

How much tsserver writes into its own log.  A name is read without regard to
the case of ASCII letters; a name that is none means `off`.
-/

namespace LspAdapter

inductive Verbosity
  | off
  | terse
  | normal
  | verbose
  deriving DecidableEq, Repr

namespace Verbosity

def name : Verbosity → String
  | .off => "off"
  | .terse => "terse"
  | .normal => "normal"
  | .verbose => "verbose"

def all : List Verbosity :=
  [.off, .terse, .normal, .verbose]

/-- The verbosity with a name, the case of ASCII letters aside. -/
def named? (s : String) : Option Verbosity :=
  all.find? fun v => s.toList.map Char.toLower = v.name.toList

/-- The verbosity that a name stands for; a name that is none means `off`. -/
def ofName (s : String) : Verbosity :=
  (named? s).getD .off

end Verbosity

end LspAdapter
