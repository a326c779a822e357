import LspAdapter.Proofs.Framing.Delivery
import LspAdapter.Proofs.Session.Run
/-!
# Nothing follows `exit`

In every phase the notification `exit` ends the session, so what a client sends
behind it makes no difference.  A transport that reads no further than `exit`
therefore serves as well as one that delivers everything.  This holds whatever
becomes of the client's end of the connection.
-/

namespace LspAdapter.Session

open Framing (Delivery)

variable (settings : Settings)

/-! ## One message -/

theorem isEnded_of_exit {p q : Phase} {m : Message} {s : List (Message × OnFailure)}
    (h : Move settings p m s q) (hm : m.isExit = true) : q.isEnded = true := by
  cases h with
  | earlyNotification n hn => exact absurd (of_decide_eq_true hm) hn
  | initialized n hn =>
      have hexit : n.method = "exit" := of_decide_eq_true hm
      rw [hn] at hexit
      exact absurd hexit (by decide)
  | notification n hn => exact absurd (of_decide_eq_true hm) hn
  | earlyRequest | opened | shutdown | request | response => cases hm
  | badParams | earlyExit | earlyResponse | notInitialized | exit | farewell | notExit => rfl

/-- A reaction that ends the session ends it even if it loses a message. -/
theorem isEnded_carryOut (s : State) (r : Reaction) (h : r.next.isEnded = true) :
    (s.carryOut r).2.phase.isEnded = true := by
  unfold State.carryOut
  cases hperform : perform s.link r.actions with
  | mk effect end' =>
      obtain ⟨link, broken⟩ := end'
      cases broken with
      | none => exact h
      | some b => rfl

theorem isEnded_step (s : State) (m : Message) (hm : m.isExit = true) :
    (s.step settings m).2.phase.isEnded = true := by
  cases hs : s.phase.isEnded with
  | true => rwa [step_of_isEnded settings s m hs]
  | false =>
      apply isEnded_carryOut
      exact isEnded_of_exit settings (move_react settings s.phase m hs) hm

/-! ## Runs -/

theorem isEnded_run (s : State) (ms : List Message) (h : ∃ m ∈ ms, m.isExit = true) :
    (s.run settings ms).2.phase.isEnded = true := by
  obtain ⟨m, hm, hexit⟩ := h
  obtain ⟨before, rest, rfl⟩ := List.append_of_mem hm
  have hended := isEnded_step settings (s.run settings before).2 m hexit
  rw [run_append]
  simp only [State.run]
  rwa [run_of_isEnded settings _ rest hended]

variable (l : Link)

/-- A session over some messages, continued over others. -/
theorem transcript_append (p q : List Message) :
    let more := ((State.start l).2.run settings p).2.run settings q
    (transcript settings l (p ++ q)).sent =
        (transcript settings l p).sent ++ more.1.flatMap (·.sent) ∧
      (transcript settings l (p ++ q)).records =
        (transcript settings l p).records ++ more.1.flatMap (·.records) ∧
      (transcript settings l (p ++ q)).ending = more.2.phase.disconnect := by
  intro more
  simp only [transcript, Transcript.sent, Transcript.records, run_append, List.flatMap_append,
    List.append_assoc, more, and_self]

/-- What follows `exit` neither sends nor records anything nor changes how the
session ends. -/
theorem transcript_append_of_exit (p q : List Message) (h : ∃ m ∈ p, m.isExit = true) :
    (transcript settings l (p ++ q)).sent = (transcript settings l p).sent ∧
      (transcript settings l (p ++ q)).records = (transcript settings l p).records ∧
      (transcript settings l (p ++ q)).ending = (transcript settings l p).ending := by
  obtain ⟨hsent, hrecords, hend⟩ := transcript_append settings l p q
  rw [run_of_isEnded settings _ q (isEnded_run settings _ p h)] at hsent hrecords hend
  have hnone : ∀ ms : List Message,
      (ms.map fun _ => Effect.none).flatMap (·.sent) = [] ∧
        (ms.map fun _ => Effect.none).flatMap (·.records) = [] := by
    intro ms
    induction ms with
    | nil => exact ⟨rfl, rfl⟩
    | cons m ms ih => exact ih
  rw [(hnone q).1, List.append_nil] at hsent
  rw [(hnone q).2, List.append_nil] at hrecords
  exact ⟨hsent, hrecords, hend⟩

/-- Whatever follows `exit`, the session is the same, and so it is over a transport
that reads no further than `exit`. What was sent before more messages come stays
sent. -/
theorem exit_final (p q : List Message) :
    ((∃ m ∈ p, m.isExit = true) →
        (transcript settings l (p ++ q)).sent = (transcript settings l p).sent ∧
          (transcript settings l (p ++ q)).records = (transcript settings l p).records ∧
          (transcript settings l (p ++ q)).ending = (transcript settings l p).ending) ∧
      (∀ fault, let delivered := (Delivery.untilExit fault (p ++ q)).messages
        (transcript settings l delivered).sent = (transcript settings l (p ++ q)).sent ∧
          (transcript settings l delivered).records = (transcript settings l (p ++ q)).records ∧
          (transcript settings l delivered).ending = (transcript settings l (p ++ q)).ending) ∧
      (transcript settings l p).sent <+: (transcript settings l (p ++ q)).sent := by
  refine ⟨transcript_append_of_exit settings l p q, ?_, ?_⟩
  · intro fault delivered
    obtain ⟨rest, hrest, hexit⟩ := Delivery.exists_undelivered fault (p ++ q)
    rw [hrest]
    rcases hexit with rfl | hexit
    · rw [List.append_nil]
      exact ⟨rfl, rfl, rfl⟩
    · obtain ⟨hsent, hrecords, hend⟩ :=
        transcript_append_of_exit settings l delivered rest hexit
      exact ⟨hsent.symm, hrecords.symm, hend.symm⟩
  · rw [(transcript_append settings l p q).1]
    exact List.prefix_append _ _

end LspAdapter.Session
