import LspAdapter.CommandLine.Scan
/-!
# Help and version

The texts that answer a command line which asks for them.  The program is
called by the name it was started with.
-/

namespace LspAdapter.CommandLine

open Text (Terminal.plain)

/-- The name of the program where its command line gives none. -/
def programName : String :=
  "typescript-language-server"

def programVersion : String :=
  "0.1.0"

def calledName (argv : List Argument) : String :=
  let name := argv.head?.bind fun a => (fileName? a.bytes).bind Text.Utf8.decode?
  name.getD programName

def lines (ls : List String) : String :=
  ls.foldr (fun l rest => l ++ "\n" ++ rest) ""

def heading (name : String) : List String :=
  ["Language Server Protocol adapter for the TypeScript tsserver",
    "",
    "Usage: " ++ Terminal.plain name ++ " [OPTIONS] --stdio",
    "",
    "Options:"]

def shortHelpText (name : String) : String :=
  lines <| heading name ++
    ["      --stdio                               Uses stdio as the communication channel",
      "      --log-level <LEVEL>                   Set log level",
      "      --tsserver-log-verbosity <VERBOSITY>  Specify a tsserver log verbosity",
      "      --tsserver-path <PATH>                Specify path to tsserver directory",
      "      --tsserver-log-file <PATH>            Specify a tsserver log file",
      "      --logdir <DIR>                        Specifies a directory to use for logging",
      "  -h, --help                                Print help (see more with '--help')",
      "  -V, --version                             Print version"]

def longHelpText (name : String) : String :=
  lines <| heading name ++
    ["      --stdio",
      "          Uses stdio as the communication channel",
      "",
      "      --log-level <LEVEL>",
      "          A number indicating the log level (4 = log, 3 = info, 2 = warn, 1 = error). " ++
        "Defaults to `3`.",
      "",
      "      --tsserver-log-verbosity <VERBOSITY>",
      "          Possible values are: [off | terse | normal | verbose] (By default `off` is " ++
        "used, or `normal` when --tsserver-log-file is given)",
      "",
      "      --tsserver-path <PATH>",
      "          Specify path to tsserver directory. example: " ++
        "--tsserver-path=/Users/me/typescript/lib/",
      "",
      "      --tsserver-log-file <PATH>",
      "          Specify a tsserver log file",
      "",
      "      --logdir <DIR>",
      "          Specifies a directory to use for logging",
      "",
      "  -h, --help",
      "          Print help (see a summary with '-h')",
      "",
      "  -V, --version",
      "          Print version"]

def Answer.text (argv : List Argument) : Answer → String
  | .shortHelp => shortHelpText (calledName argv)
  | .longHelp => longHelpText (calledName argv)
  | .version => programName ++ " " ++ programVersion ++ "\n"

def Halt.status : Halt → Nat
  | .answered _ => 0
  | .refused _ => Refusal.status

/-- What is written about a command line that does not start a session: an
answer as a whole, the first line about a refusal. -/
def Halt.message (argv : List Argument) : Halt → String
  | .answered a => a.text argv
  | .refused r => r.message

end LspAdapter.CommandLine
