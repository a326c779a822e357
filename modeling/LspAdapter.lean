import LspAdapter.Main
import LspAdapter.Program.Threads
import LspAdapter.Proofs.Session.Announcement
import LspAdapter.Proofs.Session.Crash
import LspAdapter.Proofs.Session.Exit
import LspAdapter.Proofs.Session.Ignored
import LspAdapter.Proofs.Session.Language
import LspAdapter.Proofs.Session.LostClient
import LspAdapter.Proofs.Session.Records
import LspAdapter.Proofs.Session.Replies
import LspAdapter.Proofs.Text.Utf8
import LspAdapter.Proofs.Program.Exit
import LspAdapter.Proofs.Program.Journal
import LspAdapter.Proofs.Program.Live
import LspAdapter.Proofs.CommandLine.Spelling
import LspAdapter.Proofs.CommandLine.Step
import LspAdapter.Proofs.CommandLine.Segments
import LspAdapter.Proofs.CommandLine.Parsing
import LspAdapter.Proofs.CommandLine.Decision
import LspAdapter.Proofs.Config.Warning
import LspAdapter.Proofs.Config.RoundTrip
import LspAdapter.Proofs.Config.Verbosity
import LspAdapter.Proofs.ClientLog
import LspAdapter.Proofs.Message.Wire
import LspAdapter.Proofs.Program.Live
import LspAdapter.Proofs.Framing.RoundTrip
