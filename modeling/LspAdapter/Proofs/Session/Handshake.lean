import Mathlib.Data.List.Induction
import LspAdapter.Proofs.Session.Language
import LspAdapter.Proofs.Session.Replies
/-!
# The handshake of a session

A session waits for `initialize` as long as it gets early messages only, and
replies to the requests among them.  What a run does from its start is thus known
up to the first message that is not early.
-/

namespace LspAdapter.Session

variable (settings : Settings)

def earlyReplies (early : List Message) : List Message :=
  (requests early).map fun r => .response (notInitialized r)

theorem length_earlyReplies (early : List Message) :
    (earlyReplies early).length = (requests early).length := by
  rw [earlyReplies, List.length_map]

/-! ## Waiting for `initialize` -/

theorem early_append (early rest : List Message) (h : ∀ m ∈ early, m.IsEarly) :
    Phase.awaitingInitialize.after settings (early ++ rest) =
        Phase.awaitingInitialize.after settings rest ∧
      Phase.awaitingInitialize.sent settings (early ++ rest) =
        earlyReplies early ++ Phase.awaitingInitialize.sent settings rest := by
  induction early with
  | nil => exact ⟨rfl, rfl⟩
  | cons m early ih =>
      obtain ⟨hm, hearly⟩ := List.forall_mem_cons.1 h
      obtain ⟨hafter, hsent⟩ := ih hearly
      rw [List.cons_append]
      cases m with
      | request r =>
          rw [Phase.after_move settings (.earlyRequest r hm),
            Phase.sent_move settings (.earlyRequest r hm), hafter, hsent]
          exact ⟨rfl, rfl⟩
      | response r => cases hm
      | notification n =>
          rw [Phase.after_move settings (.earlyNotification n hm),
            Phase.sent_move settings (.earlyNotification n hm), hafter, hsent]
          exact ⟨rfl, rfl⟩

theorem after_early (early : List Message) (h : ∀ m ∈ early, m.IsEarly) :
    Phase.awaitingInitialize.after settings early = .awaitingInitialize := by
  have happend := (early_append settings early [] h).1
  rwa [List.append_nil, Phase.after_nil] at happend

theorem sent_early (early : List Message) (h : ∀ m ∈ early, m.IsEarly) :
    Phase.awaitingInitialize.sent settings early = earlyReplies early := by
  have happend := (early_append settings early [] h).2
  rwa [List.append_nil, Phase.sent_nil, List.append_nil] at happend

/-- Only an early message leaves a session waiting for `initialize`, and only if
that is what it did before. -/
theorem eq_awaitingInitialize_of_move {p : Phase} {m : Message} {s : List (Message × OnFailure)}
    (h : Move settings p m s .awaitingInitialize) : p = .awaitingInitialize ∧ m.IsEarly := by
  cases h with
  | earlyRequest r hr => exact ⟨rfl, hr⟩
  | earlyNotification n hn => exact ⟨rfl, hn⟩

/-- A session that still waits for `initialize` has got early messages only. -/
theorem isEarly_of_after (ms : List Message)
    (h : Phase.awaitingInitialize.after settings ms = .awaitingInitialize) :
    ∀ m ∈ ms, m.IsEarly := by
  -- The last message left the session waiting, so those before it did, too.
  induction ms using List.reverseRecOn with
  | nil => simp
  | append_singleton before m ih =>
      have hrun : (Phase.awaitingInitialize.after settings before).isEnded = false := by
        apply Phase.isEnded_of_after settings _ [m]
        rw [← Phase.after_append, h]
        rfl
      obtain ⟨s, q, hmove⟩ := Phase.exists_move settings _ m hrun
      rw [Phase.after_append, Phase.after_move settings hmove, Phase.after_nil] at h
      subst h
      obtain ⟨hbefore, hm⟩ := eq_awaitingInitialize_of_move settings hmove
      intro m' hm'
      rcases List.mem_append.1 hm' with hm' | hm'
      · exact ih hbefore m' hm'
      · rw [List.mem_singleton.1 hm']
        exact hm

end LspAdapter.Session
