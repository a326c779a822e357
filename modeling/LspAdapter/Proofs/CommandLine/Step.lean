import LspAdapter.CommandLine.Scan
import LspAdapter.Proofs.CommandLine.Spelling
/-!
# Steps of a scan

What one argument can bring about, unless it ends the scan: there is one kind of
advance for each way an argument can be taken, and `step_eq_ok_iff` says that a step
succeeds exactly by one of them.  Proofs about whole command lines take an advance
apart and never look into a step.  The end of a scan is described in the same way;
it alone finds that no channel was chosen.
-/

namespace LspAdapter

theorem bind_eq_ok_iff {ε α β : Type} {x : Except ε α} {f : α → Except ε β} {b : β} :
    (x >>= f) = .ok b ↔ ∃ a, x = .ok a ∧ f a = .ok b := by
  cases x with
  | error e => exact iff_of_false nofun nofun
  | ok a =>
      constructor
      · intro h
        exact ⟨a, rfl, h⟩
      · rintro ⟨a', ha, h⟩
        cases ha
        exact h

theorem bind_ne_error {ε α β : Type} {x : Except ε α} {f : α → Except ε β} {e : ε}
    (hx : x ≠ .error e) (hf : ∀ a, f a ≠ .error e) : (x >>= f) ≠ .error e := by
  cases x with
  | error e' =>
      intro h
      cases h
      exact hx rfl
  | ok a => exact hf a

namespace CommandLine

open Text.Utf8 (encode decode?)

namespace Flag

theorem decode?_bind_named?_eq_some_iff {name : List UInt8} {f : Flag} :
    (decode? name).bind named? = some f ↔ name = encode f.name := by
  rw [Option.bind_eq_some_iff]
  constructor
  · rintro ⟨s, hs, hf⟩
    rw [Text.Utf8.decode?_eq_some_iff.1 hs, named?_eq_some_iff.1 hf]
  · rintro rfl
    exact ⟨f.name, Text.Utf8.decode?_encode _, named?_eq_some_iff.2 rfl⟩

end Flag

namespace Scan

/-! ## Settling a flag -/

theorem settle_eq_ok_iff {a a' : Arguments} {f : ValueFlag} {v : Argument} :
    settle a f v = .ok a' ↔ f.get a = none ∧ ∃ t, v = .ofText t ∧ a' = f.set t a := by
  unfold settle
  cases hget : f.get a with
  | some t => simp
  | none =>
      cases htext : v.text? with
      | none =>
          refine iff_of_false (by simp) ?_
          rintro ⟨-, t, rfl, -⟩
          rw [Argument.text?_ofText] at htext
          cases htext
      | some t =>
          rw [Argument.text?_eq_some_iff] at htext
          subst htext
          constructor
          · intro h
            cases h
            exact ⟨rfl, t, rfl, rfl⟩
          · rintro ⟨-, t', ht, rfl⟩
            rw [Argument.ofText_inj.1 ht]
            rfl

inductive Settles (s : Scan) : Arguments → Prop
  | idle : s.pending = none → s.Settles s.settled
  | value (f : ValueFlag) (t : String) : s.pending = some ⟨f, some (.ofText t)⟩ →
      f.get s.settled = none → s.Settles (f.set t s.settled)

theorem flush_eq_ok_iff {s s' : Scan} :
    s.flush = .ok s' ↔ ∃ a, s.Settles a ∧ s' = ⟨a, none, s.closed⟩ := by
  constructor
  · intro h
    obtain ⟨settled, pending, closed⟩ := s
    cases pending with
    | none =>
        cases h
        exact ⟨settled, .idle rfl, rfl⟩
    | some p =>
        obtain ⟨f, v⟩ := p
        cases v with
        | none => cases h
        | some v =>
            obtain ⟨a, hsettle, heq⟩ := bind_eq_ok_iff.1 h
            obtain ⟨hget, t, rfl, rfl⟩ := settle_eq_ok_iff.1 hsettle
            cases heq
            exact ⟨_, .value f t rfl hget, rfl⟩
  · rintro ⟨a, hsettles, rfl⟩
    obtain ⟨settled, pending, closed⟩ := s
    cases hsettles with
    | idle hpending =>
        cases hpending
        rfl
    | value f t hpending hget =>
        cases hpending
        have hsettle := settle_eq_ok_iff.2 ⟨hget, t, rfl, rfl⟩
        simp only [flush, hsettle]
        rfl

theorem flush_bind_eq_ok_iff {α : Type} {s : Scan} {k : Scan → Except Halt α} {b : α} :
    (s.flush >>= k) = .ok b ↔ ∃ a, s.Settles a ∧ k ⟨a, none, s.closed⟩ = .ok b := by
  constructor
  · intro h
    obtain ⟨s', hflush, hk⟩ := bind_eq_ok_iff.1 h
    obtain ⟨a, hsettles, rfl⟩ := flush_eq_ok_iff.1 hflush
    exact ⟨a, hsettles, hk⟩
  · rintro ⟨a, hsettles, hk⟩
    exact bind_eq_ok_iff.2 ⟨_, flush_eq_ok_iff.2 ⟨a, hsettles, rfl⟩, hk⟩

/-- A flag that can be settled awaits no value. -/
theorem Settles.awaitsAnything_eq_false {s : Scan} {a : Arguments} (h : s.Settles a) :
    s.awaitsAnything = false := by
  cases h with
  | idle hpending => simp [awaitsAnything, hpending]
  | value f t hpending hget => simp [awaitsAnything, hpending]

/-! ## One argument -/

inductive Advance (s : Scan) : Argument → Scan → Prop
  | terminator : s.closed = false → s.awaitsAnything = false →
      Advance s (.ofText "--") { s with closed := true }
  | value (f : ValueFlag) (v : Argument) : s.closed = false → s.pending = some ⟨f, none⟩ →
      (f.takesAnything = true ∨ v.spelling = .word) →
      Advance s v ⟨s.settled, some ⟨f, some v⟩, false⟩
  | flag (f : ValueFlag) (a : Arguments) : s.closed = false → s.Settles a →
      Advance s (.ofText ("--" ++ f.name)) ⟨a, some ⟨f, none⟩, false⟩
  | assigned (f : ValueFlag) (v : String) (a : Arguments) : s.closed = false → s.Settles a →
      f.get a = none →
      Advance s (.ofText ("--" ++ f.name ++ "=" ++ v)) ⟨f.set v a, none, false⟩
  | stdio (a : Arguments) : s.closed = false → s.Settles a → a.stdio = false →
      Advance s (.ofText "--stdio") ⟨{ a with stdio := true }, none, false⟩

theorem advance_of_word {s s' : Scan} {a : Argument} (hclosed : s.closed = false)
    (hvalue : s.awaitsAnything = true ∨ a.spelling = .word) (h : s.word a = .ok s') :
    Advance s a s' := by
  unfold word at h
  split at h
  · rename_i f hpending
    cases h
    have htakes : f.takesAnything = true ∨ a.spelling = .word := by
      simpa only [awaitsAnything, hpending] using hvalue
    rw [hclosed]
    exact .value f a hclosed hpending htakes
  · cases h

theorem advance_of_long {s s' : Scan} {a : Argument} {name : List UInt8}
    {value : Option Argument} (hclosed : s.closed = false) (ha : a.spelling = .long name value)
    (h : s.long name value = .ok s') : Advance s a s' := by
  unfold long at h
  cases hflag : (decode? name).bind Flag.named? with
  | none =>
      rw [hflag] at h
      cases h
  | some flag =>
      rw [Flag.decode?_bind_named?_eq_some_iff.1 hflag] at ha
      rw [hflag] at h
      cases value with
      | none =>
          rw [Argument.spelling_eq_flag_iff] at ha
          subst ha
          cases flag with
          | value f =>
              obtain ⟨b, hsettles, heq⟩ := flush_bind_eq_ok_iff.1 h
              cases heq
              rw [hclosed]
              exact .flag f b hclosed hsettles
          | stdio =>
              obtain ⟨b, hsettles, heq⟩ := flush_bind_eq_ok_iff.1 h
              cases hstdio : b.stdio with
              | true =>
                  simp only [hstdio, if_true] at heq
                  cases heq
              | false =>
                  simp only [hstdio, Bool.false_eq_true, if_false] at heq
                  cases heq
                  rw [hclosed]
                  exact .stdio b hclosed hsettles hstdio
          | help | version =>
              obtain ⟨_, _, heq⟩ := flush_bind_eq_ok_iff.1 h
              cases heq
      | some v =>
          cases flag with
          | value f =>
              obtain ⟨b, hsettles, hassign⟩ := flush_bind_eq_ok_iff.1 h
              obtain ⟨c, hsettle, heq⟩ := bind_eq_ok_iff.1 hassign
              obtain ⟨hget, t, rfl, rfl⟩ := settle_eq_ok_iff.1 hsettle
              rw [Argument.spelling_eq_assigned_iff] at ha
              subst ha
              cases heq
              rw [hclosed]
              exact .assigned f t b hclosed hsettles hget
          | stdio | help | version => cases h

theorem short_ne_ok (s s' : Scan) (letters : List UInt8) : s.short letters ≠ .ok s' := by
  intro h
  unfold short at h
  split at h
  · obtain ⟨_, _, heq⟩ := flush_bind_eq_ok_iff.1 h
    cases heq
  · obtain ⟨_, _, heq⟩ := flush_bind_eq_ok_iff.1 h
    cases heq
  · cases h
  · cases h

theorem long_of_flag {s : Scan} {a : Arguments} (h : s.Settles a) (f : ValueFlag) :
    s.long (encode f.name) none = .ok ⟨a, some ⟨f, none⟩, s.closed⟩ := by
  have hflag : (decode? (encode f.name)).bind Flag.named? = some (.value f) :=
    Flag.decode?_bind_named?_eq_some_iff.2 rfl
  simp only [long, hflag]
  exact flush_bind_eq_ok_iff.2 ⟨a, h, rfl⟩

theorem long_of_assigned {s : Scan} {a : Arguments} (h : s.Settles a) (f : ValueFlag)
    (v : String) (hget : f.get a = none) :
    s.long (encode f.name) (some (.ofText v)) = .ok ⟨f.set v a, none, s.closed⟩ := by
  have hflag : (decode? (encode f.name)).bind Flag.named? = some (.value f) :=
    Flag.decode?_bind_named?_eq_some_iff.2 rfl
  have hsettle := settle_eq_ok_iff.2 ⟨hget, v, rfl, rfl⟩
  simp only [long, hflag]
  exact flush_bind_eq_ok_iff.2 ⟨a, h, bind_eq_ok_iff.2 ⟨_, hsettle, rfl⟩⟩

theorem long_of_stdio {s : Scan} {a : Arguments} (h : s.Settles a) (hstdio : a.stdio = false) :
    s.long (encode "stdio") none = .ok ⟨{ a with stdio := true }, none, s.closed⟩ := by
  have hflag : (decode? (encode "stdio")).bind Flag.named? = some .stdio :=
    Flag.decode?_bind_named?_eq_some_iff.2 rfl
  simp only [long, hflag]
  refine flush_bind_eq_ok_iff.2 ⟨a, h, ?_⟩
  simp only [hstdio]
  rfl

/-- Where neither the closing marker nor an awaited value decides, the spelling does. -/
theorem step_of_spelling {s : Scan} {a : Argument} (hclosed : s.closed = false)
    (hawaits : s.awaitsAnything = false) :
    s.step a = match a.spelling with
      | .terminator => .ok { s with closed := true }
      | .long name value => s.long name value
      | .short letters => s.short letters
      | .word => s.word a := by
  rw [step, hclosed, hawaits]
  rfl

/-- A scan takes an argument exactly if it can go on by some advance. -/
theorem step_eq_ok_iff {s s' : Scan} {a : Argument} : s.step a = .ok s' ↔ Advance s a s' := by
  constructor
  · intro h
    unfold step at h
    cases hclosed : s.closed with
    | true =>
        rw [hclosed, if_pos rfl] at h
        cases h
    | false =>
        rw [hclosed, if_neg (by decide)] at h
        cases hawaits : s.awaitsAnything with
        | true =>
            rw [hawaits, if_pos rfl] at h
            exact advance_of_word hclosed (.inl hawaits) h
        | false =>
            rw [hawaits, if_neg (by decide)] at h
            cases hspelling : a.spelling with
            | terminator =>
                rw [hspelling] at h
                cases h
                rw [Argument.eq_ofText_of_terminator hspelling]
                exact .terminator hclosed hawaits
            | long name value =>
                rw [hspelling] at h
                exact advance_of_long hclosed hspelling h
            | short letters =>
                rw [hspelling] at h
                exact absurd h (short_ne_ok s s' letters)
            | word =>
                rw [hspelling] at h
                exact advance_of_word hclosed (.inr hspelling) h
  · intro h
    cases h with
    | terminator hclosed hawaits =>
        rw [step_of_spelling hclosed hawaits, Argument.spelling_terminator]
    | value f v hclosed hpending hvalue =>
        -- A flag that takes anything does not even have its value's spelling looked at.
        have hword : s.word a = .ok ⟨s.settled, some ⟨f, some a⟩, false⟩ := by
          simp only [word, hpending, hclosed]
        cases htakes : f.takesAnything with
        | true =>
            have hawaits : s.awaitsAnything = true := by
              simp only [awaitsAnything, hpending, htakes]
            rw [step, hclosed, hawaits]
            exact hword
        | false =>
            have hawaits : s.awaitsAnything = false := by
              simp only [awaitsAnything, hpending, htakes]
            have hspelling : a.spelling = .word :=
              hvalue.resolve_left (ne_true_of_eq_false htakes)
            rw [step_of_spelling hclosed hawaits, hspelling]
            exact hword
    | flag f b hclosed hsettles =>
        have hspelling := (Argument.spelling_eq_flag_iff _ (.value f)).2 rfl
        rw [step_of_spelling hclosed hsettles.awaitsAnything_eq_false]
        rw [Flag.name] at hspelling
        rw [hspelling, ← hclosed]
        exact long_of_flag hsettles f
    | assigned f v b hclosed hsettles hget =>
        have hspelling := (Argument.spelling_eq_assigned_iff _ (.value f) v).2 rfl
        rw [step_of_spelling hclosed hsettles.awaitsAnything_eq_false]
        rw [Flag.name] at hspelling
        rw [hspelling, ← hclosed]
        exact long_of_assigned hsettles f v hget
    | stdio b hclosed hsettles hstdio =>
        have hspelling := (Argument.spelling_eq_flag_iff (.ofText "--stdio") .stdio).2 rfl
        rw [step_of_spelling hclosed hsettles.awaitsAnything_eq_false, hspelling, ← hclosed]
        exact long_of_stdio hsettles hstdio

/-! ## The end -/

theorem finish_eq_ok_iff {s : Scan} {a : Arguments} :
    s.finish = .ok a ↔ s.Settles a ∧ a.stdio = true := by
  constructor
  · intro h
    obtain ⟨b, hsettles, hfinish⟩ := flush_bind_eq_ok_iff.1 h
    cases hstdio : b.stdio with
    | true =>
        simp only [hstdio, if_true] at hfinish
        cases hfinish
        exact ⟨hsettles, hstdio⟩
    | false =>
        simp only [hstdio, Bool.false_eq_true, if_false] at hfinish
        cases hfinish
  · rintro ⟨hsettles, hstdio⟩
    refine flush_bind_eq_ok_iff.2 ⟨a, hsettles, ?_⟩
    simp only [hstdio]
    rfl

/-! Only the end of a scan finds that no channel was chosen. -/

theorem settle_ne_missingStdio (a : Arguments) (f : ValueFlag) (v : Argument) :
    settle a f v ≠ .error (.refused .missingStdio) := by
  unfold settle
  split
  · nofun
  · split <;> nofun

theorem flush_ne_missingStdio (s : Scan) : s.flush ≠ .error (.refused .missingStdio) := by
  unfold flush
  split
  · nofun
  · nofun
  · exact bind_ne_error (settle_ne_missingStdio _ _ _) nofun

theorem word_ne_missingStdio (s : Scan) (a : Argument) :
    s.word a ≠ .error (.refused .missingStdio) := by
  unfold word
  split <;> nofun

theorem long_ne_missingStdio (s : Scan) (name : List UInt8) (value : Option Argument) :
    s.long name value ≠ .error (.refused .missingStdio) := by
  unfold long
  cases (decode? name).bind Flag.named? with
  | none => nofun
  | some flag =>
      cases flag with
      | value f =>
          cases value with
          | none => exact bind_ne_error (flush_ne_missingStdio s) fun _ => nofun
          | some v =>
              refine bind_ne_error (flush_ne_missingStdio s) fun s' => ?_
              exact bind_ne_error (settle_ne_missingStdio _ _ _) fun _ => nofun
      | stdio =>
          cases value with
          | none =>
              refine bind_ne_error (flush_ne_missingStdio s) fun s' => ?_
              split <;> nofun
          | some v => nofun
      | help =>
          cases value with
          | none => exact bind_ne_error (flush_ne_missingStdio s) fun _ => nofun
          | some v => nofun
      | version =>
          cases value with
          | none => exact bind_ne_error (flush_ne_missingStdio s) fun _ => nofun
          | some v => nofun

theorem short_ne_missingStdio (s : Scan) (letters : List UInt8) :
    s.short letters ≠ .error (.refused .missingStdio) := by
  unfold short
  split
  · exact bind_ne_error (flush_ne_missingStdio s) fun _ => nofun
  · exact bind_ne_error (flush_ne_missingStdio s) fun _ => nofun
  · nofun
  · nofun

theorem step_ne_missingStdio (s : Scan) (a : Argument) :
    s.step a ≠ .error (.refused .missingStdio) := by
  unfold step
  split
  · nofun
  · split
    · exact word_ne_missingStdio s a
    · split
      · nofun
      · exact long_ne_missingStdio s _ _
      · exact short_ne_missingStdio s _
      · exact word_ne_missingStdio s a

theorem finish_eq_missingStdio_iff {s : Scan} :
    s.finish = .error (.refused .missingStdio) ↔ ∃ a, s.Settles a ∧ a.stdio = false := by
  constructor
  · intro h
    cases hflush : s.flush with
    | error e =>
        rw [finish, hflush] at h
        cases h
        exact absurd hflush (flush_ne_missingStdio s)
    | ok s' =>
        obtain ⟨b, hsettles, rfl⟩ := flush_eq_ok_iff.1 hflush
        refine ⟨b, hsettles, ?_⟩
        cases hstdio : b.stdio with
        | true =>
            rw [finish_eq_ok_iff.2 ⟨hsettles, hstdio⟩] at h
            cases h
        | false => rfl
  · rintro ⟨a, hsettles, hstdio⟩
    rw [finish, flush_eq_ok_iff.2 ⟨a, hsettles, rfl⟩]
    show (if a.stdio then _ else _) = _
    rw [hstdio]
    rfl

end Scan

end CommandLine

end LspAdapter
