import LspAdapter.CommandLine.Usage
import LspAdapter.Proofs.CommandLine.Parsing
/-!
# The argument that decides a command line

A scan does not look ahead: a step that halts ends it, whatever follows.  Three kinds of
halt come of such a step only, and so they stay when more arguments follow.  The end of a
scan never brings them about; what it does find, such as a value that is missing, can
turn into something else if the command line goes on.

A flag that asks for an answer is such an argument wherever the flag before it can be
settled.  Then the answer is given, even if no channel has been chosen.
-/

namespace LspAdapter.CommandLine

/-- Whether a halt shows that one argument decided it: one that asks for an answer, is
not expected, or carries a value that its flag does not take. -/
inductive Halt.IsDecisive : Halt → Prop
  | answered (a : Answer) : IsDecisive (.answered a)
  | unexpected (shown : String) : IsDecisive (.refused (.unexpected shown))
  | excessValue (flag : Flag) (shown : String) : IsDecisive (.refused (.excessValue flag shown))

inductive Asks : Argument → Answer → Prop
  | shortHelp : Asks (.ofText "-h") .shortHelp
  | longHelp : Asks (.ofText "--help") .longHelp
  | shortVersion : Asks (.ofText "-V") .version
  | longVersion : Asks (.ofText "--version") .version

/-! ## Halts at the end -/

namespace Scan

variable {h : Halt}

theorem settle_ne_decisive (hh : h.IsDecisive) (a : Arguments) (f : ValueFlag) (v : Argument) :
    settle a f v ≠ .error h := by
  unfold settle
  split
  · rintro ⟨⟩
    cases hh
  · split
    · rintro ⟨⟩
      cases hh
    · nofun

theorem flush_ne_decisive (hh : h.IsDecisive) (s : Scan) : s.flush ≠ .error h := by
  unfold flush
  split
  · nofun
  · rintro ⟨⟩
    cases hh
  · exact bind_ne_error (settle_ne_decisive hh _ _ _) nofun

/-- The end of a scan decides nothing that an argument could have decided. -/
theorem finish_ne_decisive (hh : h.IsDecisive) (s : Scan) : s.finish ≠ .error h := by
  refine bind_ne_error (flush_ne_decisive hh s) fun s' => ?_
  split
  · nofun
  · rintro ⟨⟩
    cases hh

/-! ## Halts on the way -/

theorem foldlM_step_append_of_error {s : Scan} {args : List Argument}
    (hrun : args.foldlM step s = .error h) (more : List Argument) :
    (args ++ more).foldlM step s = .error h := by
  rw [List.foldlM_append, hrun]
  rfl

theorem foldlM_step_of_halt {s s' : Scan} {args : List Argument} {arg : Argument}
    (hrun : args.foldlM step s = .ok s') (hstep : s'.step arg = .error h)
    (more : List Argument) : (args ++ arg :: more).foldlM step s = .error h := by
  rw [List.foldlM_append, hrun]
  show (arg :: more).foldlM step s' = _
  rw [List.foldlM_cons, hstep]
  rfl

theorem step_of_closed {s : Scan} (hclosed : s.closed = true) (a : Argument) :
    s.step a = .error (.refused (.unexpected a.shown)) := by
  rw [step, if_pos hclosed]

theorem flush_bind_of_settles {α : Type} {s : Scan} {a : Arguments} (hs : s.Settles a)
    (k : Scan → Except Halt α) : (s.flush >>= k) = k ⟨a, none, s.closed⟩ := by
  rw [flush_eq_ok_iff.2 ⟨a, hs, rfl⟩]
  rfl

/-- A flag that asks for an answer gets it as soon as it is reached. -/
theorem step_of_asks {s : Scan} {a : Arguments} {arg : Argument} {answer : Answer}
    (hclosed : s.closed = false) (hs : s.Settles a) (hasks : Asks arg answer) :
    s.step arg = .error (.answered answer) := by
  have hlong (f : Flag) : (Text.Utf8.decode? (Text.Utf8.encode f.name)).bind Flag.named? = some f :=
    Flag.decode?_bind_named?_eq_some_iff.2 rfl
  rw [step_of_spelling hclosed hs.awaitsAnything_eq_false]
  cases hasks with
  | shortHelp => exact flush_bind_of_settles hs _
  | shortVersion => exact flush_bind_of_settles hs _
  | longHelp =>
      rw [(Argument.spelling_eq_flag_iff (.ofText "--help") .help).2 rfl]
      simp only [long, hlong]
      exact flush_bind_of_settles hs _
  | longVersion =>
      rw [(Argument.spelling_eq_flag_iff (.ofText "--version") .version).2 rfl]
      simp only [long, hlong]
      exact flush_bind_of_settles hs _

end Scan

/-! ## Whole command lines -/

variable {name : Argument} {args : List Argument}

theorem parse_of_foldlM_error {h : Halt} (hrun : args.foldlM Scan.step Scan.start = .error h) :
    parse (name :: args) = .error h := by
  rw [parse, List.tail_cons, scan, hrun]
  rfl

theorem foldlM_error_of_parse {h : Halt} (hh : h.IsDecisive)
    (hparse : parse (name :: args) = .error h) :
    args.foldlM Scan.step Scan.start = .error h := by
  cases hrun : args.foldlM Scan.step Scan.start with
  | error e =>
      rw [parse_of_foldlM_error hrun] at hparse
      rw [Except.error.inj hparse]
  | ok s =>
      rw [parse, List.tail_cons, scan, hrun] at hparse
      exact absurd hparse (Scan.finish_ne_decisive hh s)

/-- Behind a row that fills arguments an answer is given. -/
theorem parse_of_asks {segs : List Segment} {a : Arguments} {arg : Argument} {answer : Answer}
    (hfills : Fills segs a) (hasks : Asks arg answer) (more : List Argument) :
    parse (name :: (segs.flatMap Segment.arguments ++ arg :: more)) =
      .error (.answered answer) := by
  obtain ⟨s, hrun, hclosed, hsettles⟩ := Scan.exists_foldlM_of_fills hfills
  have hstep := Scan.step_of_asks hclosed hsettles hasks
  exact parse_of_foldlM_error (Scan.foldlM_step_of_halt hrun hstep more)

/-- A row without the segment that chooses the channel fills what is left. -/
theorem Fills.exists_erase {before after : List Segment} {a : Arguments}
    (h : Fills (before ++ .stdio :: after) a) : ∃ b, Fills (before ++ after) b := by
  obtain ⟨hadmissible, hcount⟩ := exists_fills_iff.1 ⟨a, h⟩
  have hsublist : (before ++ after).Sublist (before ++ .stdio :: after) :=
    (List.Sublist.refl before).append (List.sublist_cons_self _ after)
  have hassigned : assignments (before ++ after) = assignments (before ++ .stdio :: after) := by
    rw [assignments, assignments, List.filterMap_append, List.filterMap_append]
    rfl
  refine exists_fills_iff.2 ⟨⟨fun seg hseg => ?_, ?_⟩, ?_⟩
  · exact hadmissible.allowed seg (hsublist.subset hseg)
  · rw [hassigned]
    exact hadmissible.distinct
  · exact Nat.le_trans (hsublist.count_le _) hcount

/-- A command line is decided by the first argument that can decide it: an answer, an
argument that is not expected, and a value that a flag does not take stay what they are,
with the same message and status, whatever follows.  An accepted command line is a row of
segments with one that chooses the channel, and perhaps the closing marker.  Behind the
row every flag that asks for an answer gets it, whatever follows, and so it does if the
channel is not chosen; behind the marker every argument is refused. -/
theorem parse_decided (name : Argument) (args : List Argument) :
    (∀ h : Halt, h.IsDecisive → parse (name :: args) = .error h → ∀ more,
      parse (name :: (args ++ more)) = .error h ∧
        h.message (name :: (args ++ more)) = h.message (name :: args) ∧
        h.status = match h with
          | .answered _ => 0
          | .refused _ => 2) ∧
    ∀ a, parse (name :: args) = .ok a →
      (∃ before after closed, .stdio ∉ before ++ after ∧
        args = (before ++ .stdio :: after).flatMap Segment.arguments ++ closing closed) ∧
      (∀ before after, args = (before ++ .stdio :: after).flatMap Segment.arguments →
        ∀ arg answer more, Asks arg answer →
          parse (name :: (args ++ arg :: more)) = .error (.answered answer) ∧
          parse (name :: ((before ++ after).flatMap Segment.arguments ++ arg :: more)) =
            .error (.answered answer)) ∧
      ∀ before after,
        args = (before ++ .stdio :: after).flatMap Segment.arguments ++ [.ofText "--"] →
        ∀ arg more,
          parse (name :: (args ++ arg :: more)) = .error (.refused (.unexpected arg.shown)) := by
  refine ⟨fun h hh hparse more => ⟨?_, ?_, ?_⟩, fun a hparse => ⟨?_, ?_, ?_⟩⟩
  · have hrun := foldlM_error_of_parse hh hparse
    exact parse_of_foldlM_error (Scan.foldlM_step_append_of_error hrun more)
  · -- The arguments behind the name of the program have no part in a message.
    cases h <;> rfl
  · cases h <;> rfl
  · obtain ⟨hstdio, segs, ⟨closed, hargs⟩, hfills⟩ := parse_eq_ok_iff.1 hparse
    have hcount := hfills.stdio_iff.1 hstdio
    obtain ⟨before, after, rfl⟩ := List.append_of_mem (hfills.records.stdio.1 hstdio)
    refine ⟨before, after, closed, ?_, hargs⟩
    rw [List.count_append, List.count_cons_self] at hcount
    rw [← List.count_eq_zero, List.count_append]
    omega
  · rintro before after rfl arg answer more hasks
    obtain ⟨-, segs, hspells, hfills⟩ := parse_eq_ok_iff.1 hparse
    obtain rfl := hspells.unique ⟨false, (List.append_nil _).symm⟩
    obtain ⟨b, hrest⟩ := hfills.exists_erase
    exact ⟨parse_of_asks hfills hasks more, parse_of_asks hrest hasks more⟩
  · rintro before after rfl arg more
    obtain ⟨-, segs, hspells, hfills⟩ := parse_eq_ok_iff.1 hparse
    obtain rfl := hspells.unique ⟨true, rfl⟩
    obtain ⟨s, hrun, hclosed, hsettles⟩ := Scan.exists_foldlM_of_fills hfills
    have hstep := Scan.step_eq_ok_iff.2 (.terminator hclosed hsettles.awaitsAnything_eq_false)
    have hmark : [Argument.ofText "--"].foldlM Scan.step s = .ok { s with closed := true } :=
      bind_eq_ok_iff.2 ⟨_, hstep, rfl⟩
    have hrun' := Scan.foldlM_step_append hrun hmark
    exact parse_of_foldlM_error (Scan.foldlM_step_of_halt hrun' (Scan.step_of_closed rfl arg) more)

/-- A value that is missing is found at the end only, and is not missing once it follows. -/
example : parse (["server", "--logdir"].map .ofText) =
      .error (.refused (.missingValue .logDirectory)) ∧
    parse (["server", "--logdir", "logs"].map .ofText) = .error (.refused .missingStdio) := by
  decide

end LspAdapter.CommandLine
