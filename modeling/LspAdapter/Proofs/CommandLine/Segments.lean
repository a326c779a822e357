import LspAdapter.Proofs.CommandLine.Spelling
import Mathlib.Data.List.Induction
import Mathlib.Data.List.Nodup
/-!
# Segments of a command line

An accepted command line is a row of segments, one for each choice of the user.  A
row can be read off its arguments in one way only, and it says what the arguments
are filled with: `Fills` does this segment by segment, and `exists_fills_iff` and
`Fills.records` say the same of the row as a whole.
-/

namespace LspAdapter

theorem Arguments.ext_of_get {a b : Arguments} (hstdio : a.stdio = b.stdio)
    (hget : ∀ f : CommandLine.ValueFlag, f.get a = f.get b) : a = b := by
  obtain ⟨_, _, _, _, _, _⟩ := a
  obtain ⟨_, _, _, _, _, _⟩ := b
  rw [Arguments.mk.injEq]
  exact ⟨hstdio, hget .logLevel, hget .verbosity, hget .tsserverPath, hget .tsserverLogFile,
    hget .logDirectory⟩

namespace CommandLine

open Text.Utf8 (encode)

theorem ValueFlag.takesAnything_iff {f : ValueFlag} : f.takesAnything = true ↔ f = .logLevel := by
  cases f <;> simp [takesAnything]

/-- A choice of the user as the command line spells it.  A value is a text, so an
argument that is not well-formed UTF-8 is none. -/
inductive Segment
  | stdio
  /-- A flag and its value, each an argument. -/
  | apart (f : ValueFlag) (v : String)
  /-- A flag and its value in one argument. -/
  | joined (f : ValueFlag) (v : String)
  deriving DecidableEq, Repr

namespace Segment

def arguments : Segment → List Argument
  | .stdio => [.ofText "--stdio"]
  | .apart f v => [.ofText ("--" ++ f.name), .ofText v]
  | .joined f v => [.ofText ("--" ++ f.name ++ "=" ++ v)]

/-- Whether the value may be given like this: a level may be anything, but behind the
other flags a value must not look like a flag. -/
def Allowed : Segment → Prop
  | .apart f v => f = .logLevel ∨ Argument.IsWord v
  | _ => True

def assignment? : Segment → Option (ValueFlag × String)
  | .stdio => none
  | .apart f v => some (f, v)
  | .joined f v => some (f, v)

def fill : Segment → Arguments → Arguments
  | .stdio, a => { a with stdio := true }
  | .apart f v, a => f.set v a
  | .joined f v, a => f.set v a

def Fresh : Segment → Arguments → Prop
  | .stdio, a => a.stdio = false
  | .apart f _, a => f.get a = none
  | .joined f _, a => f.get a = none

/-! ## The first argument of a segment -/

def flag : Segment → Flag
  | .stdio => .stdio
  | .apart f _ => .value f
  | .joined f _ => .value f

def carried : Segment → Option Argument
  | .joined _ v => some (.ofText v)
  | _ => none

theorem exists_head (seg : Segment) : ∃ head rest, seg.arguments = head :: rest ∧
    head.spelling = .long (encode seg.flag.name) seg.carried := by
  cases seg with
  | stdio => exact ⟨_, _, rfl, (Argument.spelling_eq_flag_iff _ .stdio).2 rfl⟩
  | apart f v => exact ⟨_, _, rfl, (Argument.spelling_eq_flag_iff _ (.value f)).2 rfl⟩
  | joined f v => exact ⟨_, _, rfl, (Argument.spelling_eq_assigned_iff _ (.value f) v).2 rfl⟩

theorem arguments_append_inj {s t : Segment} {xs ys : List Argument}
    (h : s.arguments ++ xs = t.arguments ++ ys) : s = t ∧ xs = ys := by
  obtain ⟨head, _, hs, hspells⟩ := s.exists_head
  obtain ⟨head', _, ht, hspellt⟩ := t.exists_head
  have hhead : head = head' := by
    rw [hs, ht] at h
    exact (List.cons.inj h).1
  rw [← hhead, hspells, Spelling.long.injEq, Text.Utf8.encode_inj, Flag.name_inj] at hspellt
  obtain ⟨hflag, hcarried⟩ := hspellt
  cases s <;> cases t <;> cases hflag
  · exact ⟨rfl, (List.cons.inj h).2⟩
  · obtain ⟨hvalue, hrest⟩ := List.cons.inj (List.cons.inj h).2
    rw [Argument.ofText_inj.1 hvalue]
    exact ⟨rfl, hrest⟩
  · cases hcarried
  · cases hcarried
  · rw [Argument.ofText_inj.1 (Option.some.inj hcarried)]
    exact ⟨rfl, (List.cons.inj h).2⟩

end Segment

/-! ## Rows of segments -/

def assignments (segs : List Segment) : List (ValueFlag × String) :=
  segs.filterMap Segment.assignment?

def closing : Bool → List Argument
  | true => [.ofText "--"]
  | false => []

/-- Whether the arguments are spelled by the row, the closing marker behind it or not. -/
def Spells (segs : List Segment) (args : List Argument) : Prop :=
  ∃ closed, args = segs.flatMap Segment.arguments ++ closing closed

/-- An argument that closes a command line is no segment. -/
theorem arguments_append_ne_closing (seg : Segment) (xs : List Argument) (closed : Bool) :
    seg.arguments ++ xs ≠ closing closed := by
  intro h
  obtain ⟨head, rest, hseg, hspelling⟩ := seg.exists_head
  rw [hseg] at h
  cases closed with
  | true =>
      rw [(List.cons.inj h).1, Argument.spelling_terminator] at hspelling
      cases hspelling
  | false => cases h

/-- Arguments split into segments in one way. -/
theorem Spells.unique {segs segs' : List Segment} {args : List Argument}
    (h : Spells segs args) (h' : Spells segs' args) : segs = segs' := by
  induction segs generalizing segs' args with
  | nil =>
      obtain ⟨closed, rfl⟩ := h
      obtain ⟨closed', heq⟩ := h'
      cases segs' with
      | nil => rfl
      | cons seg segs' =>
          rw [List.flatMap_cons, List.append_assoc] at heq
          exact absurd heq.symm (arguments_append_ne_closing seg _ closed)
  | cons seg segs ih =>
      obtain ⟨closed, rfl⟩ := h
      obtain ⟨closed', heq⟩ := h'
      rw [List.flatMap_cons, List.append_assoc] at heq
      cases segs' with
      | nil => exact absurd heq (arguments_append_ne_closing seg _ closed')
      | cons seg' segs' =>
          rw [List.flatMap_cons, List.append_assoc] at heq
          obtain ⟨rfl, hrest⟩ := Segment.arguments_append_inj heq
          rw [ih ⟨closed, rfl⟩ ⟨closed', hrest⟩]

/-- Whether every segment of the row is allowed, and no flag is given two values. -/
structure Admissible (segs : List Segment) : Prop where
  allowed : ∀ seg ∈ segs, seg.Allowed
  distinct : ((assignments segs).map Prod.fst).Nodup

structure Records (segs : List Segment) (a : Arguments) : Prop where
  stdio : a.stdio = true ↔ .stdio ∈ segs
  value (f : ValueFlag) (v : String) : f.get a = some v ↔ (f, v) ∈ assignments segs

theorem Records.get_eq_none_iff {segs : List Segment} {a : Arguments} (h : Records segs a)
    (f : ValueFlag) : f.get a = none ↔ f ∉ (assignments segs).map Prod.fst := by
  rw [Option.eq_none_iff_forall_ne_some]
  constructor
  · intro hnone hmem
    obtain ⟨⟨_, v⟩, hassigned, rfl⟩ := List.mem_map.1 hmem
    exact hnone v ((h.value _ v).2 hassigned)
  · intro hmem v hsome
    exact hmem (List.mem_map_of_mem ((h.value f v).1 hsome))

theorem Records.unique {segs : List Segment} {a b : Arguments} (ha : Records segs a)
    (hb : Records segs b) : a = b := by
  refine Arguments.ext_of_get ?_ fun f => ?_
  · rw [Bool.eq_iff_iff, ha.stdio, hb.stdio]
  · ext v
    rw [ha.value, hb.value]

theorem mem_assignments_iff {segs : List Segment} {p : ValueFlag × String} :
    p ∈ assignments segs ↔ some p ∈ segs.map Segment.assignment? := by
  rw [assignments, List.mem_filterMap, List.mem_map]

theorem count_stdio_eq (segs : List Segment) :
    segs.count .stdio = (segs.map Segment.assignment?).count none := by
  induction segs with
  | nil => rfl
  | cons seg segs ih => cases seg <;> simp [Segment.assignment?, ih]

theorem stdio_mem_iff {segs : List Segment} :
    .stdio ∈ segs ↔ none ∈ segs.map Segment.assignment? := by
  rw [← List.count_pos_iff, count_stdio_eq, List.count_pos_iff]

/-- Neither the order of the segments nor how a value is spelled makes a difference. -/
theorem Records.perm {segs segs' : List Segment} {a : Arguments} (h : Records segs a)
    (hperm : (segs.map Segment.assignment?).Perm (segs'.map Segment.assignment?)) :
    Records segs' a where
  stdio := by rw [h.stdio, stdio_mem_iff, stdio_mem_iff, hperm.mem_iff]
  value f v := by rw [h.value, mem_assignments_iff, mem_assignments_iff, hperm.mem_iff]

inductive Fills : List Segment → Arguments → Prop
  | nil : Fills [] .none
  | snoc {segs : List Segment} {a : Arguments} (seg : Segment) : Fills segs a →
      seg.Allowed → seg.Fresh a → Fills (segs ++ [seg]) (seg.fill a)

/-! ## Rows that fill arguments -/

theorem assignments_snoc (segs : List Segment) (seg : Segment) :
    assignments (segs ++ [seg]) = assignments segs ++ seg.assignment?.toList := by
  rw [assignments, List.filterMap_append]
  cases seg <;> rfl

theorem ValueFlag.get_set_eq_some_iff {f : ValueFlag} {a : Arguments} (hnone : f.get a = none)
    (v : String) (g : ValueFlag) (w : String) :
    g.get (f.set v a) = some w ↔ g.get a = some w ∨ (g, w) = (f, v) := by
  by_cases hg : g = f
  · subst hg
    simp [hnone, eq_comm]
  · simp [get_set_of_ne hg, hg]

theorem Records.assign {segs : List Segment} {a : Arguments} (h : Records segs a)
    {seg : Segment} {f : ValueFlag} {v : String} (hseg : seg.assignment? = some (f, v))
    (hnone : f.get a = none) : Records (segs ++ [seg]) (f.set v a) where
  stdio := by
    have hne : Segment.stdio ≠ seg := by
      rintro rfl
      cases hseg
    rw [ValueFlag.stdio_set, h.stdio, List.mem_append, List.mem_singleton, or_iff_left hne]
  value g w := by
    rw [ValueFlag.get_set_eq_some_iff hnone, h.value, assignments_snoc, hseg, List.mem_append,
      Option.toList_some, List.mem_singleton]

theorem Records.choose {segs : List Segment} {a : Arguments} (h : Records segs a) :
    Records (segs ++ [.stdio]) { a with stdio := true } where
  stdio := by simp
  value f v := by
    have hget : f.get { a with stdio := true } = f.get a := by cases f <;> rfl
    rw [hget, h.value, assignments_snoc, Segment.assignment?, Option.toList_none, List.append_nil]

theorem Fills.records {segs : List Segment} {a : Arguments} (h : Fills segs a) :
    Records segs a := by
  induction h with
  | nil =>
      refine ⟨by decide, fun f v => ?_⟩
      have hget : f.get .none = none := by cases f <;> rfl
      simp [hget, assignments]
  | snoc seg _ _ hfresh ih =>
      cases seg with
      | stdio => exact ih.choose
      | apart f v => exact ih.assign rfl hfresh
      | joined f v => exact ih.assign rfl hfresh

/-- A segment is fresh if the row before it says nothing about it. -/
theorem Records.fresh_iff {segs : List Segment} {a : Arguments} (h : Records segs a)
    (seg : Segment) : seg.Fresh a ↔ (seg = .stdio → .stdio ∉ segs) ∧
      ∀ p ∈ seg.assignment?, p.1 ∉ (assignments segs).map Prod.fst := by
  cases seg with
  | stdio => simp [Segment.Fresh, Segment.assignment?, ← h.stdio]
  | apart f v => simp [Segment.Fresh, Segment.assignment?, h.get_eq_none_iff]
  | joined f v => simp [Segment.Fresh, Segment.assignment?, h.get_eq_none_iff]

theorem admissible_snoc_iff {segs : List Segment} {seg : Segment} :
    Admissible (segs ++ [seg]) ↔ Admissible segs ∧ seg.Allowed ∧
      ∀ p ∈ seg.assignment?, p.1 ∉ (assignments segs).map Prod.fst := by
  have hallowed : (∀ s ∈ segs ++ [seg], s.Allowed) ↔ (∀ s ∈ segs, s.Allowed) ∧ seg.Allowed := by
    simp only [List.forall_mem_append, List.forall_mem_singleton]
  have hdistinct : ((assignments (segs ++ [seg])).map Prod.fst).Nodup ↔
      ((assignments segs).map Prod.fst).Nodup ∧
        ∀ p ∈ seg.assignment?, p.1 ∉ (assignments segs).map Prod.fst := by
    rw [assignments_snoc, List.map_append, List.nodup_append_comm]
    cases seg.assignment? with
    | none => simp
    | some p => simp [and_comm]
  constructor
  · rintro ⟨ha, hd⟩
    exact ⟨⟨(hallowed.1 ha).1, (hdistinct.1 hd).1⟩, (hallowed.1 ha).2, (hdistinct.1 hd).2⟩
  · rintro ⟨h, ha, hd⟩
    exact ⟨hallowed.2 ⟨h.allowed, ha⟩, hdistinct.2 ⟨h.distinct, hd⟩⟩

theorem count_stdio_snoc_le_iff {segs : List Segment} {seg : Segment} :
    (segs ++ [seg]).count .stdio ≤ 1 ↔
      segs.count .stdio ≤ 1 ∧ (seg = .stdio → .stdio ∉ segs) := by
  rw [List.count_append, ← List.count_eq_zero]
  by_cases hseg : seg = .stdio
  · subst hseg
    simp
    omega
  · simp [hseg]

/-- The rows that fill arguments: each segment is allowed, no flag has two values, and
the channel is not chosen twice. -/
theorem exists_fills_iff {segs : List Segment} :
    (∃ a, Fills segs a) ↔ Admissible segs ∧ segs.count .stdio ≤ 1 := by
  constructor
  · rintro ⟨a, h⟩
    induction h with
    | nil => exact ⟨⟨nofun, .nil⟩, Nat.zero_le 1⟩
    | snoc seg hfills hallowed hfresh ih =>
        obtain ⟨hstdio, hassigned⟩ := (hfills.records.fresh_iff seg).1 hfresh
        rw [admissible_snoc_iff, count_stdio_snoc_le_iff]
        exact ⟨⟨ih.1, hallowed, hassigned⟩, ih.2, hstdio⟩
  · induction segs using List.reverseRecOn with
    | nil => exact fun _ => ⟨_, .nil⟩
    | append_singleton segs seg ih =>
        rw [admissible_snoc_iff, count_stdio_snoc_le_iff]
        rintro ⟨⟨hadmissible, hallowed, hassigned⟩, hcount, hstdio⟩
        obtain ⟨a, hfills⟩ := ih ⟨hadmissible, hcount⟩
        exact ⟨_, hfills.snoc seg hallowed ((hfills.records.fresh_iff seg).2 ⟨hstdio, hassigned⟩)⟩

theorem Fills.stdio_iff {segs : List Segment} {a : Arguments} (h : Fills segs a) :
    a.stdio = true ↔ segs.count .stdio = 1 := by
  have hcount := (exists_fills_iff.1 ⟨a, h⟩).2
  rw [h.records.stdio, ← List.count_pos_iff]
  omega

end CommandLine

end LspAdapter
