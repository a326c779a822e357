import LspAdapter.Proofs.CommandLine.Parsing
import LspAdapter.Proofs.Config.LogLevel
import LspAdapter.Proofs.Config.Verbosity
/-!
# Settings written as a command line

Settings can be asked for on the command line, and those that are asked for are those
that result.  Both halves meet at `AskedBy`, which says what a row of segments must say: it
chooses the channel, gives the number of the level and the name of the verbosity, and,
where there are any, the path and the log file.  Neither the order of the segments nor
the case of the name matters.

* `AskedBy.exists_parse` — what a command line that asks for settings is read as;
* `resolveTo_asked` — the settings that result from it;
* `askedBy_of_perm_row` — a row that asks for settings, in any order.
-/

namespace LspAdapter

open CommandLine (Argument Segment Spells ValueFlag)

namespace Settings

/-! ## Rows that ask for settings -/

def requests (c : Settings) (name : String) (logFile : Option String) :
    List (Option (ValueFlag × String)) :=
  [none, some (.logLevel, toString c.messageLevel.number), some (.verbosity, name)] ++
    (c.tsserverPath.toList.map fun p => some (.tsserverPath, p)) ++
      logFile.toList.map fun f => some (.tsserverLogFile, f)

/-- Whether a row of segments asks for settings and a log file, in whatever order, with
each value in whatever way it may be given, and the verbosity in upper or lower case. -/
structure AskedBy (c : Settings) (logFile : Option String) (segs : List Segment) : Prop where
  allowed : ∀ seg ∈ segs, seg.Allowed
  requests : ∃ name : String, name.toList.map Char.toLower = c.verbosity.name.toList ∧
    (segs.map Segment.assignment?).Perm (c.requests name logFile)

def asked (c : Settings) (name : String) (logFile : Option String) : Arguments :=
  ⟨true, some (toString c.messageLevel.number), some name, c.tsserverPath, logFile, none⟩

variable {c : Settings} {logFile : Option String} {name : String} {segs : List Segment}

theorem mem_requests_iff (f : ValueFlag) (v : String) :
    some (f, v) ∈ c.requests name logFile ↔ f.get (c.asked name logFile) = some v := by
  cases f <;> simp [requests, asked, ValueFlag.get, eq_comm]

theorem distinct_requests (c : Settings) (name : String) (logFile : Option String) :
    (((c.requests name logFile).filterMap id).map Prod.fst).Nodup := by
  unfold requests
  cases c.tsserverPath <;> cases logFile <;> simp

theorem count_none_requests (c : Settings) (name : String) (logFile : Option String) :
    (c.requests name logFile).count none = 1 := by
  unfold requests
  cases c.tsserverPath <;> cases logFile <;> simp

/-- A row that asks for settings fills the arguments with what it asks for. -/
theorem AskedBy.exists_fills (h : c.AskedBy logFile segs) :
    ∃ name : String, name.toList.map Char.toLower = c.verbosity.name.toList ∧
      CommandLine.Fills segs (c.asked name logFile) := by
  obtain ⟨name, hname, hperm⟩ := h.requests
  have hassigned : CommandLine.assignments segs = (segs.map Segment.assignment?).filterMap id := by
    rw [List.filterMap_map]
    rfl
  have hdistinct : ((CommandLine.assignments segs).map Prod.fst).Nodup := by
    rw [hassigned]
    exact ((hperm.filterMap id).map Prod.fst).nodup_iff.2 (c.distinct_requests name logFile)
  have hcount : segs.count .stdio = 1 := by
    rw [CommandLine.count_stdio_eq, hperm.count_eq, count_none_requests]
  obtain ⟨a, hfills⟩ :=
    CommandLine.exists_fills_iff.2 ⟨⟨h.allowed, hdistinct⟩, Nat.le_of_eq hcount⟩
  have hrecords : CommandLine.Records segs (c.asked name logFile) := by
    refine ⟨?_, fun f v => ?_⟩
    · rw [← List.count_pos_iff, hcount]
      exact iff_of_true rfl Nat.one_pos
    · rw [CommandLine.mem_assignments_iff, hperm.mem_iff, mem_requests_iff]
  obtain rfl := hfills.records.unique hrecords
  exact ⟨name, hname, hfills⟩

/-- What a command line that asks for settings is read as. -/
theorem AskedBy.exists_parse (h : c.AskedBy logFile segs) {args : List Argument}
    (hspells : Spells segs args) (program : Argument) :
    ∃ name : String, name.toList.map Char.toLower = c.verbosity.name.toList ∧
      CommandLine.parse (program :: args) = .ok (c.asked name logFile) := by
  obtain ⟨name, hname, hfills⟩ := h.exists_fills
  exact ⟨name, hname, CommandLine.parse_eq_ok_iff.2 ⟨rfl, segs, hspells, hfills⟩⟩

/-! ## Settings that result -/

theorem resolveLevel_number (l : LogLevel) :
    resolveLevel (some (toString l.number)) = (l, none) := by
  cases l <;> decide

/-- The settings that were asked for are those that result, and nothing is written. -/
theorem resolveTo_asked (h : name.toList.map Char.toLower = c.verbosity.name.toList)
    (hlog : logFile = none ∨ c.verbosity ≠ .off) (sink : Sink) :
    resolveTo sink (c.asked name logFile) = (c, sink) := by
  rw [resolveTo_of_silent (resolveLevel_number c.messageLevel)]
  simp only [asked, resolveVerbosity_of_lower h hlog]

/-- The segments that ask for settings, with a path and a log file joined to their
flags, since they may look like flags themselves. -/
def row (c : Settings) (name : String) (logFile : Option String) : List Segment :=
  [.stdio, .apart .logLevel (toString c.messageLevel.number), .apart .verbosity name] ++
    (c.tsserverPath.toList.map fun p => .joined .tsserverPath p) ++
      logFile.toList.map fun f => .joined .tsserverLogFile f

theorem isWord_of_lower {v : Verbosity} (h : name.toList.map Char.toLower = v.name.toList) :
    Argument.IsWord name := by
  refine .inr (.inr fun hhyphen => ?_)
  have hhead := congrArg List.head? h
  rw [List.head?_map, hhyphen] at hhead
  cases v <;> revert hhead <;> decide

theorem askedBy_of_perm_row (hname : name.toList.map Char.toLower = c.verbosity.name.toList)
    (hperm : segs.Perm (c.row name logFile)) : c.AskedBy logFile segs := by
  refine ⟨fun seg hseg => ?_, name, hname, ?_⟩
  · have hrow := hperm.mem_iff.1 hseg
    simp only [row, List.mem_append, List.mem_cons, List.not_mem_nil, or_false,
      List.mem_map] at hrow
    rcases hrow with ((rfl | rfl | rfl) | ⟨p, -, rfl⟩) | ⟨f, -, rfl⟩
    · trivial
    · exact .inl rfl
    · exact .inr (isWord_of_lower hname)
    · trivial
    · trivial
  · have hmap : (c.row name logFile).map Segment.assignment? = c.requests name logFile := by
      simp [row, requests, Segment.assignment?, Function.comp_def]
    rw [← hmap]
    exact hperm.map _

end Settings

/-- Settings that a command line asks for are those that result from it, and nothing is
written; in particular they may be asked for in any order, and with a name of the
verbosity in upper or lower case. The settings that result from any arguments can be asked
for together with their log file, and then result again. -/
theorem settings_roundTrip (sink : Sink) :
    (∀ (c : Settings) (logFile : Option String), logFile = none ∨ c.verbosity ≠ .off →
      ∀ segs, c.AskedBy logFile segs → ∀ program args, Spells segs args →
        ∃ a, CommandLine.parse (program :: args) = .ok a ∧
          Settings.resolveTo sink a = (c, sink)) ∧
    (∀ (c : Settings) (logFile : Option String) (name : String) (segs : List Segment),
      name.toList.map Char.toLower = c.verbosity.name.toList →
        segs.Perm (c.row name logFile) → c.AskedBy logFile segs) ∧
    (∀ a : Arguments, let c := (Settings.resolveTo sink a).1
      ∀ segs, c.AskedBy a.tsserverLogFile segs → ∀ program args, Spells segs args →
        ∃ b, CommandLine.parse (program :: args) = .ok b ∧
          Settings.resolveTo sink b = (c, sink)) := by
  have hread : ∀ (c : Settings) (logFile : Option String), logFile = none ∨ c.verbosity ≠ .off →
      ∀ segs, c.AskedBy logFile segs → ∀ program args, Spells segs args →
        ∃ a, CommandLine.parse (program :: args) = .ok a ∧
          Settings.resolveTo sink a = (c, sink) := by
    intro c logFile hlog segs hasked program args hspells
    obtain ⟨name, hname, hparse⟩ := hasked.exists_parse hspells program
    exact ⟨_, hparse, Settings.resolveTo_asked hname hlog sink⟩
  refine ⟨hread, fun c logFile name segs => Settings.askedBy_of_perm_row, ?_⟩
  intro a c segs hasked program args hspells
  refine hread c a.tsserverLogFile ?_ segs hasked program args hspells
  -- The repair of the verbosity leaves no log file without one, so it is not made twice.
  cases hfile : a.tsserverLogFile with
  | none => exact .inl rfl
  | some file =>
      right
      have hverbosity : c.verbosity = Settings.resolveVerbosity a.verbosity a.tsserverLogFile :=
        Settings.resolveTo_verbosity sink a
      rw [hverbosity, hfile]
      exact Settings.resolveVerbosity_ne_off a.verbosity file

end LspAdapter
