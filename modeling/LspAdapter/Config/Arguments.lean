/-!
# Command line arguments

What a user may ask for on the command line, as written, before any of it has
been given a meaning.
-/

namespace LspAdapter

structure Arguments where
  stdio : Bool
  logLevel : Option String
  verbosity : Option String
  tsserverPath : Option String
  tsserverLogFile : Option String
  logDirectory : Option String
  deriving DecidableEq, Repr

def Arguments.none : Arguments :=
  ⟨false, .none, .none, .none, .none, .none⟩

instance : Inhabited Arguments := ⟨Arguments.none⟩

end LspAdapter
