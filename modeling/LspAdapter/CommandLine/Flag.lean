import LspAdapter.Config.Arguments
/-!
# The flags of the command line

Five flags take a value, three take none.  A flag is known by its whole name
only, in lower case.
-/

namespace LspAdapter.CommandLine

inductive ValueFlag
  | logLevel
  | verbosity
  | tsserverPath
  | tsserverLogFile
  | logDirectory
  deriving DecidableEq, Repr

inductive Flag
  | stdio
  | help
  | version
  | value (f : ValueFlag)
  deriving DecidableEq, Repr

namespace ValueFlag

def name : ValueFlag → String
  | .logLevel => "log-level"
  | .verbosity => "tsserver-log-verbosity"
  | .tsserverPath => "tsserver-path"
  | .tsserverLogFile => "tsserver-log-file"
  | .logDirectory => "logdir"

def placeholder : ValueFlag → String
  | .logLevel => "LEVEL"
  | .verbosity => "VERBOSITY"
  | .tsserverPath => "PATH"
  | .tsserverLogFile => "PATH"
  | .logDirectory => "DIR"

def all : List ValueFlag :=
  [.logLevel, .verbosity, .tsserverPath, .tsserverLogFile, .logDirectory]

/-- Whether the argument behind a flag is its value whatever it is, so that a
negative number can be given; behind the others an argument with a leading
hyphen is a flag. -/
def takesAnything : ValueFlag → Bool
  | .logLevel => true
  | _ => false

def get (f : ValueFlag) (a : Arguments) : Option String :=
  match f with
  | .logLevel => a.logLevel
  | .verbosity => a.verbosity
  | .tsserverPath => a.tsserverPath
  | .tsserverLogFile => a.tsserverLogFile
  | .logDirectory => a.logDirectory

def set (f : ValueFlag) (v : String) (a : Arguments) : Arguments :=
  match f with
  | .logLevel => { a with logLevel := some v }
  | .verbosity => { a with verbosity := some v }
  | .tsserverPath => { a with tsserverPath := some v }
  | .tsserverLogFile => { a with tsserverLogFile := some v }
  | .logDirectory => { a with logDirectory := some v }

def usage (f : ValueFlag) : String :=
  "--" ++ f.name ++ " <" ++ f.placeholder ++ ">"

@[simp] theorem get_set_self (f : ValueFlag) (v : String) (a : Arguments) :
    f.get (f.set v a) = some v := by
  cases f <;> rfl

theorem get_set_of_ne {f g : ValueFlag} (h : g ≠ f) (v : String) (a : Arguments) :
    g.get (f.set v a) = g.get a := by
  cases f <;> cases g <;> first | rfl | exact absurd rfl h

@[simp] theorem stdio_set (f : ValueFlag) (v : String) (a : Arguments) :
    (f.set v a).stdio = a.stdio := by
  cases f <;> rfl

end ValueFlag

namespace Flag

def name : Flag → String
  | .stdio => "stdio"
  | .help => "help"
  | .version => "version"
  | .value f => f.name

def all : List Flag :=
  [.stdio, .help, .version] ++ ValueFlag.all.map .value

def named? (name : String) : Option Flag :=
  all.find? (·.name = name)

def usage : Flag → String
  | .value f => f.usage
  | f => "--" ++ f.name

end Flag

end LspAdapter.CommandLine
