import LspAdapter.Proofs.Session.Sound
/-!
# Runs piece by piece

A run over some messages and then over others is two runs, the second from where
the first has led.  A session that has ended does nothing any more.  Both hold
whatever becomes of the client.
-/

namespace LspAdapter.Session

variable (settings : Settings)

/-! ## Sessions that have ended -/

theorem step_of_isEnded (s : State) (m : Message) (h : s.phase.isEnded = true) :
    s.step settings m = (.none, s) := by
  obtain ⟨phase, link⟩ := s
  obtain ⟨e, rfl⟩ := (Phase.isEnded_iff phase).1 h
  rfl

theorem run_of_isEnded (s : State) (ms : List Message) (h : s.phase.isEnded = true) :
    s.run settings ms = (ms.map fun _ => .none, s) := by
  induction ms with
  | nil => rfl
  | cons m ms ih => simp only [State.run, step_of_isEnded settings s m h, ih, List.map_cons]

theorem taken_of_isEnded (s : State) (ms : List Message) (h : s.phase.isEnded = true) :
    s.taken settings ms = 0 := by
  cases ms with
  | nil => rfl
  | cons m ms => rw [State.taken, if_pos h]

/-! ## Two runs in a row -/

theorem run_append (s : State) (as bs : List Message) :
    s.run settings (as ++ bs) =
      ((s.run settings as).1 ++ ((s.run settings as).2.run settings bs).1,
        ((s.run settings as).2.run settings bs).2) := by
  induction as generalizing s with
  | nil => rfl
  | cons m as ih => simp only [List.cons_append, State.run, ih]

theorem taken_append (s : State) (as bs : List Message) :
    s.taken settings (as ++ bs) =
      s.taken settings as + (s.run settings as).2.taken settings bs := by
  induction as generalizing s with
  | nil => simp [State.run, State.taken]
  | cons m as ih =>
      cases hs : s.phase.isEnded with
      | true =>
          rw [run_of_isEnded settings s _ hs, taken_of_isEnded settings s _ hs,
            taken_of_isEnded settings s _ hs, taken_of_isEnded settings s _ hs]
      | false =>
          simp only [List.cons_append, State.taken, State.run, hs, Bool.false_eq_true, if_false, ih]
          omega

end LspAdapter.Session
