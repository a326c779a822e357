import LspAdapter.Proofs.CommandLine.Segments
import LspAdapter.Proofs.CommandLine.Step
/-!
# Accepted command lines

A scan is at any time behind a row of segments, the arguments of the pending flag and
the closing marker.  Settling the pending flag adds its segment to the row, so a scan
that gets to its end has read a row; and every row that fills arguments is read.
-/

namespace LspAdapter.CommandLine

/-! ## Rows behind a scan -/

def Scan.unsettled (s : Scan) : List Argument :=
  match s.pending with
  | none => []
  | some ⟨f, none⟩ => [.ofText ("--" ++ f.name)]
  | some ⟨f, some v⟩ => [.ofText ("--" ++ f.name), v]

/-- How far a scan has come behind the arguments: the settled flags are those of the
row, and a pending value may stand where it does. -/
structure Scan.Reached (s : Scan) (args : List Argument) (segs : List Segment) : Prop where
  spelled : args = segs.flatMap Segment.arguments ++ s.unsettled ++ closing s.closed
  fills : Fills segs s.settled
  fits (f : ValueFlag) (v : Argument) : s.pending = some ⟨f, some v⟩ →
    f.takesAnything = true ∨ v.spelling = .word

namespace Scan

theorem reached_start : start.Reached [] [] where
  spelled := rfl
  fills := .nil
  fits := nofun

theorem Reached.settle {s : Scan} {args : List Argument} {segs : List Segment} {a : Arguments}
    (h : s.Reached args segs) (hsettles : s.Settles a) :
    ∃ segs, Reached ⟨a, none, s.closed⟩ args segs := by
  cases hsettles with
  | idle hpending =>
      refine ⟨segs, ?_, h.fills, nofun⟩
      rw [h.spelled, unsettled, hpending]
      rfl
  | value f t hpending hget =>
      have hallowed : (Segment.apart f t).Allowed :=
        (h.fits f _ hpending).imp ValueFlag.takesAnything_iff.1
          (Argument.spelling_ofText_eq_word_iff t).1
      refine ⟨segs ++ [.apart f t], ?_, h.fills.snoc (.apart f t) hallowed hget, nofun⟩
      rw [h.spelled, unsettled, hpending]
      simp [Segment.arguments, unsettled]

theorem Reached.advance {s s' : Scan} {args : List Argument} {segs : List Segment}
    {arg : Argument} (h : s.Reached args segs) (hadvance : s.Advance arg s') :
    ∃ segs, s'.Reached (args ++ [arg]) segs := by
  cases hadvance with
  | terminator hclosed _ =>
      refine ⟨segs, ?_, h.fills, h.fits⟩
      rw [h.spelled, hclosed]
      simp [closing, unsettled]
  | value f v hclosed hpending hvalue =>
      refine ⟨segs, ?_, h.fills, ?_⟩
      · rw [h.spelled, hclosed, unsettled, hpending]
        simp [closing, unsettled]
      · rintro g w hpending'
        cases hpending'
        exact hvalue
  | flag f a hclosed hsettles =>
      obtain ⟨segs', h'⟩ := h.settle hsettles
      refine ⟨segs', ?_, h'.fills, nofun⟩
      rw [h'.spelled, hclosed]
      simp [closing, unsettled]
  | assigned f v a hclosed hsettles hget =>
      obtain ⟨segs', h'⟩ := h.settle hsettles
      refine ⟨segs' ++ [.joined f v], ?_, h'.fills.snoc (.joined f v) trivial hget, nofun⟩
      rw [h'.spelled, hclosed]
      simp [closing, unsettled, Segment.arguments]
  | stdio a hclosed hsettles hstdio =>
      obtain ⟨segs', h'⟩ := h.settle hsettles
      refine ⟨segs' ++ [.stdio], ?_, h'.fills.snoc .stdio trivial hstdio, nofun⟩
      rw [h'.spelled, hclosed]
      simp [closing, unsettled, Segment.arguments]

theorem exists_reached {s : Scan} {args : List Argument}
    (h : args.foldlM step start = .ok s) : ∃ segs, s.Reached args segs := by
  -- On the last argument, as rows grow at their end.
  induction args using List.reverseRecOn generalizing s with
  | nil =>
      cases h
      exact ⟨[], reached_start⟩
  | append_singleton args arg ih =>
      rw [List.foldlM_append] at h
      obtain ⟨s', hrun, hlast⟩ := bind_eq_ok_iff.1 h
      obtain ⟨segs, hreached⟩ := ih hrun
      rw [List.foldlM_cons, bind_eq_ok_iff] at hlast
      obtain ⟨s'', hstep, heq⟩ := hlast
      cases heq
      exact hreached.advance (step_eq_ok_iff.1 hstep)

/-! ## Reading a row -/

theorem foldlM_step_append {s s' s'' : Scan} {args args' : List Argument}
    (h : args.foldlM step s = .ok s') (h' : args'.foldlM step s' = .ok s'') :
    (args ++ args').foldlM step s = .ok s'' := by
  rw [List.foldlM_append]
  exact bind_eq_ok_iff.2 ⟨s', h, h'⟩

/-- A segment is read wherever the flag before it can be settled. -/
theorem exists_foldlM_segment {s : Scan} {a : Arguments} {seg : Segment}
    (hclosed : s.closed = false) (hsettles : s.Settles a) (hallowed : seg.Allowed)
    (hfresh : seg.Fresh a) : ∃ s', seg.arguments.foldlM step s = .ok s' ∧
      s'.closed = false ∧ s'.Settles (seg.fill a) := by
  cases seg with
  | stdio =>
      have hstep := step_eq_ok_iff.2 (.stdio a hclosed hsettles hfresh)
      exact ⟨_, bind_eq_ok_iff.2 ⟨_, hstep, rfl⟩, rfl, .idle rfl⟩
  | apart f v =>
      have hflag := step_eq_ok_iff.2 (.flag f a hclosed hsettles)
      have hfits : f.takesAnything = true ∨ (Argument.ofText v).spelling = .word :=
        hallowed.imp ValueFlag.takesAnything_iff.2 (Argument.spelling_ofText_eq_word_iff v).2
      have hvalue := step_eq_ok_iff.2 (.value (s := ⟨a, some ⟨f, none⟩, false⟩) f _ rfl rfl hfits)
      have hrun : (Segment.apart f v).arguments.foldlM step s =
          .ok ⟨a, some ⟨f, some (.ofText v)⟩, false⟩ :=
        bind_eq_ok_iff.2 ⟨_, hflag, bind_eq_ok_iff.2 ⟨_, hvalue, rfl⟩⟩
      exact ⟨_, hrun, rfl, .value f v rfl hfresh⟩
  | joined f v =>
      have hstep := step_eq_ok_iff.2 (.assigned f v a hclosed hsettles hfresh)
      exact ⟨_, bind_eq_ok_iff.2 ⟨_, hstep, rfl⟩, rfl, .idle rfl⟩

theorem exists_foldlM_of_fills {segs : List Segment} {a : Arguments} (h : Fills segs a) :
    ∃ s, (segs.flatMap Segment.arguments).foldlM step start = .ok s ∧
      s.closed = false ∧ s.Settles a := by
  induction h with
  | nil => exact ⟨start, rfl, rfl, .idle rfl⟩
  | snoc seg _ hallowed hfresh ih =>
      obtain ⟨s, hrun, hclosed, hsettles⟩ := ih
      obtain ⟨s', hsegment, hclosed', hsettles'⟩ :=
        exists_foldlM_segment hclosed hsettles hallowed hfresh
      refine ⟨s', ?_, hclosed', hsettles'⟩
      rw [List.flatMap_append, List.flatMap_singleton]
      exact foldlM_step_append hrun hsegment

theorem Settles.close {s : Scan} {a : Arguments} (h : s.Settles a) :
    Settles { s with closed := true } a := by
  cases h with
  | idle hpending => exact .idle hpending
  | value f t hpending hget => exact .value f t hpending hget

/-- What a scan of the arguments settles is what their row fills. -/
theorem exists_settles_iff {args : List Argument} {a : Arguments} :
    (∃ s, args.foldlM step start = .ok s ∧ s.Settles a) ↔
      ∃ segs, Spells segs args ∧ Fills segs a := by
  constructor
  · rintro ⟨s, hrun, hsettles⟩
    obtain ⟨segs, hreached⟩ := exists_reached hrun
    obtain ⟨segs', hsettled⟩ := hreached.settle hsettles
    refine ⟨segs', ⟨s.closed, ?_⟩, hsettled.fills⟩
    rw [hsettled.spelled]
    simp [unsettled]
  · rintro ⟨segs, ⟨closed, rfl⟩, hfills⟩
    obtain ⟨s, hrun, hclosed, hsettles⟩ := exists_foldlM_of_fills hfills
    cases closed with
    | false => exact ⟨s, foldlM_step_append hrun rfl, hsettles⟩
    | true =>
        have hstep := step_eq_ok_iff.2 (.terminator hclosed hsettles.awaitsAnything_eq_false)
        exact ⟨_, foldlM_step_append hrun (bind_eq_ok_iff.2 ⟨_, hstep, rfl⟩), hsettles.close⟩

theorem foldlM_step_ne_missingStdio (s : Scan) (args : List Argument) :
    args.foldlM step s ≠ .error (.refused .missingStdio) := by
  induction args generalizing s with
  | nil => nofun
  | cons arg args ih => exact bind_ne_error (step_ne_missingStdio s arg) ih

end Scan

/-! ## Whole command lines -/

variable {name : Argument} {args : List Argument}

theorem parse_eq_ok_iff {a : Arguments} : parse (name :: args) = .ok a ↔
    a.stdio = true ∧ ∃ segs, Spells segs args ∧ Fills segs a := by
  rw [← Scan.exists_settles_iff]
  constructor
  · intro h
    obtain ⟨s, hrun, hfinish⟩ := bind_eq_ok_iff.1 h
    obtain ⟨hsettles, hstdio⟩ := Scan.finish_eq_ok_iff.1 hfinish
    exact ⟨hstdio, s, hrun, hsettles⟩
  · rintro ⟨hstdio, s, hrun, hsettles⟩
    exact bind_eq_ok_iff.2 ⟨s, hrun, Scan.finish_eq_ok_iff.2 ⟨hsettles, hstdio⟩⟩

theorem parse_eq_missingStdio_iff : parse (name :: args) = .error (.refused .missingStdio) ↔
    ∃ a, a.stdio = false ∧ ∃ segs, Spells segs args ∧ Fills segs a := by
  simp only [← Scan.exists_settles_iff]
  constructor
  · intro h
    cases hrun : args.foldlM Scan.step Scan.start with
    | error e =>
        have hparse : parse (name :: args) = .error e := by
          rw [parse, List.tail_cons, scan, hrun]
          rfl
        rw [hparse] at h
        cases h
        exact absurd hrun (Scan.foldlM_step_ne_missingStdio _ _)
    | ok s =>
        have hparse : parse (name :: args) = s.finish := by
          rw [parse, List.tail_cons, scan, hrun]
          rfl
        rw [hparse, Scan.finish_eq_missingStdio_iff] at h
        obtain ⟨a, hsettles, hstdio⟩ := h
        exact ⟨a, hstdio, s, rfl, hsettles⟩
  · rintro ⟨a, hstdio, s, hrun, hsettles⟩
    rw [parse, List.tail_cons, scan, hrun]
    exact Scan.finish_eq_missingStdio_iff.2 ⟨a, hsettles, hstdio⟩

/-- A command line is accepted if its arguments spell an admissible row that chooses the
channel once.  The row is the only one they spell, the flags get the values that it
assigns, and neither its order nor its spelling makes a difference.  A command line for
which the channel alone is missing is refused for that. -/
theorem parse_segments (name : Argument) (args : List Argument) :
    ((∃ a, parse (name :: args) = .ok a) ↔
      ∃ segs, Spells segs args ∧ Admissible segs ∧ segs.count .stdio = 1) ∧
    (∀ segs segs', Spells segs args → Spells segs' args → segs = segs') ∧
    (∀ a segs, parse (name :: args) = .ok a → Spells segs args →
      a.stdio = true ∧ ∀ f v, f.get a = some v ↔ (f, v) ∈ assignments segs) ∧
    (∀ a segs name' args' segs', parse (name :: args) = .ok a → Spells segs args →
      Spells segs' args' → Admissible segs' →
      (segs.map Segment.assignment?).Perm (segs'.map Segment.assignment?) →
      parse (name' :: args') = .ok a) ∧
    (parse (name :: args) = .error (.refused .missingStdio) ↔
      ∃ segs, Spells segs args ∧ Admissible segs ∧ .stdio ∉ segs) := by
  have hfills : ∀ a segs, parse (name :: args) = .ok a → Spells segs args →
      a.stdio = true ∧ Fills segs a := by
    intro a segs hparse hspells
    obtain ⟨hstdio, segs', hspells', hfills⟩ := parse_eq_ok_iff.1 hparse
    -- The row that was read is the one given, for there is no other.
    rw [hspells.unique hspells']
    exact ⟨hstdio, hfills⟩
  refine ⟨⟨?_, ?_⟩, fun _ _ => Spells.unique, ?_, ?_, ⟨?_, ?_⟩⟩
  · rintro ⟨a, hparse⟩
    obtain ⟨hstdio, segs, hspells, hfills⟩ := parse_eq_ok_iff.1 hparse
    exact ⟨segs, hspells, (exists_fills_iff.1 ⟨a, hfills⟩).1, hfills.stdio_iff.1 hstdio⟩
  · rintro ⟨segs, hspells, hadmissible, hcount⟩
    obtain ⟨a, hfills⟩ := exists_fills_iff.2 ⟨hadmissible, Nat.le_of_eq hcount⟩
    exact ⟨a, parse_eq_ok_iff.2 ⟨hfills.stdio_iff.2 hcount, segs, hspells, hfills⟩⟩
  · intro a segs hparse hspells
    obtain ⟨hstdio, hfills⟩ := hfills a segs hparse hspells
    exact ⟨hstdio, hfills.records.value⟩
  · intro a segs name' args' segs' hparse hspells hspells' hadmissible' hperm
    obtain ⟨hstdio, hfills⟩ := hfills a segs hparse hspells
    have hcount : segs'.count .stdio ≤ 1 := by
      rw [count_stdio_eq, ← hperm.count_eq, ← count_stdio_eq]
      exact (exists_fills_iff.1 ⟨a, hfills⟩).2
    obtain ⟨a', hfills'⟩ := exists_fills_iff.2 ⟨hadmissible', hcount⟩
    obtain rfl := (hfills.records.perm hperm).unique hfills'.records
    exact parse_eq_ok_iff.2 ⟨hstdio, segs', hspells', hfills'⟩
  · intro hparse
    obtain ⟨a, hstdio, segs, hspells, hfills⟩ := parse_eq_missingStdio_iff.1 hparse
    refine ⟨segs, hspells, (exists_fills_iff.1 ⟨a, hfills⟩).1, ?_⟩
    rw [← hfills.records.stdio, hstdio]
    exact Bool.false_ne_true
  · rintro ⟨segs, hspells, hadmissible, hstdio⟩
    have hcount : segs.count .stdio ≤ 1 := by
      rw [List.count_eq_zero.2 hstdio]
      exact Nat.zero_le 1
    obtain ⟨a, hfills⟩ := exists_fills_iff.2 ⟨hadmissible, hcount⟩
    rw [← hfills.records.stdio, Bool.not_eq_true] at hstdio
    exact parse_eq_missingStdio_iff.2 ⟨a, hstdio, segs, hspells, hfills⟩

/-- Behind `--log-level` even the name of a flag is a value. -/
example : parse (["server", "--log-level", "--stdio", "--stdio", "--"].map .ofText) =
    .ok { Arguments.none with stdio := true, logLevel := some "--stdio" } := by
  decide

end LspAdapter.CommandLine
