import LspAdapter.Proofs.Session.Move
import LspAdapter.Session.Run
/-!
# Sessions whose client receives everything

With a sound link no action can fail, so a run follows its phases alone: every
message moves the phase to the one that its reaction names, and what is sent is
what the reactions send.

* `run_sound`, `transcript_sound_*` — a run, read off its phases;
* `Phase.runs_or_ends` — a run goes through all of its messages, or there is one
  message that ends it, and that message is the last one taken.
-/

namespace LspAdapter.Session

variable (settings : Settings)

namespace Phase

def after (p : Phase) : List Message → Phase
  | [] => p
  | m :: ms => (p.react settings m).next.after ms

def sent (p : Phase) : List Message → List Message
  | [] => []
  | m :: ms => (p.react settings m).messages ++ (p.react settings m).next.sent ms

def taken (p : Phase) : List Message → Nat
  | [] => 0
  | m :: ms => if p.isEnded then 0 else (p.react settings m).next.taken ms + 1

@[simp] theorem after_nil (p : Phase) : p.after settings [] = p := rfl

@[simp] theorem after_cons (p : Phase) (m : Message) (ms : List Message) :
    p.after settings (m :: ms) = (p.react settings m).next.after settings ms := rfl

@[simp] theorem sent_nil (p : Phase) : p.sent settings [] = [] := rfl

@[simp] theorem sent_cons (p : Phase) (m : Message) (ms : List Message) :
    p.sent settings (m :: ms) =
      (p.react settings m).messages ++ (p.react settings m).next.sent settings ms := rfl

theorem after_append (p : Phase) (as bs : List Message) :
    p.after settings (as ++ bs) = (p.after settings as).after settings bs := by
  induction as generalizing p with
  | nil => rfl
  | cons m as ih => exact ih _

theorem sent_append (p : Phase) (as bs : List Message) :
    p.sent settings (as ++ bs) =
      p.sent settings as ++ (p.after settings as).sent settings bs := by
  induction as generalizing p with
  | nil => rfl
  | cons m as ih => simp only [List.cons_append, sent_cons, after_cons, ih, List.append_assoc]

/-! ## One message -/

theorem after_move {p q : Phase} {m : Message} {s : List (Message × OnFailure)}
    (h : Move settings p m s q) (ms : List Message) :
    p.after settings (m :: ms) = q.after settings ms := by
  rw [after_cons, h.react_eq.2]

theorem sent_move {p q : Phase} {m : Message} {s : List (Message × OnFailure)}
    (h : Move settings p m s q) (ms : List Message) :
    p.sent settings (m :: ms) = s.map Prod.fst ++ q.sent settings ms := by
  rw [sent_cons, Reaction.messages, h.react_eq.1, h.react_eq.2]

theorem exists_move (p : Phase) (m : Message) (h : p.isEnded = false) :
    ∃ s q, Move settings p m s q :=
  ⟨_, _, move_react settings p m h⟩

/-! ## A phase that has ended -/

theorem isEnded_iff (p : Phase) : p.isEnded = true ↔ ∃ e, p = .ended e := by
  cases p <;> simp [isEnded]

@[simp] theorem after_ended (e : Ending) (ms : List Message) :
    (ended e).after settings ms = ended e := by
  induction ms with
  | nil => rfl
  | cons m ms ih => exact ih

@[simp] theorem sent_ended (e : Ending) (ms : List Message) :
    (ended e).sent settings ms = [] := by
  induction ms with
  | nil => rfl
  | cons m ms ih => exact ih

@[simp] theorem taken_ended (e : Ending) (ms : List Message) :
    (ended e).taken settings ms = 0 := by
  cases ms <;> rfl

theorem taken_cons (p : Phase) (m : Message) (ms : List Message) (h : p.isEnded = false) :
    p.taken settings (m :: ms) = (p.react settings m).next.taken settings ms + 1 := by
  simp [taken, h]

theorem isEnded_of_after (p : Phase) (ms : List Message)
    (h : (p.after settings ms).isEnded = false) : p.isEnded = false := by
  cases hp : p.isEnded with
  | false => rfl
  | true =>
      obtain ⟨e, rfl⟩ := (isEnded_iff p).1 hp
      rw [after_ended] at h
      exact h

theorem taken_append (p : Phase) (as bs : List Message)
    (h : (p.after settings as).isEnded = false) :
    p.taken settings (as ++ bs) = as.length + (p.after settings as).taken settings bs := by
  induction as generalizing p with
  | nil => simp
  | cons m as ih =>
      have hp : p.isEnded = false := isEnded_of_after settings p (m :: as) h
      have hrest := ih _ h
      rw [List.cons_append, taken_cons settings p m _ hp, hrest, after_cons, List.length_cons]
      omega

theorem taken_eq_length (p : Phase) (ms : List Message)
    (h : (p.after settings ms).isEnded = false) : p.taken settings ms = ms.length := by
  have happend := taken_append settings p ms [] h
  rwa [List.append_nil] at happend

/-- A run that has not ended has taken every message; a run that has ended did
so with one of its messages, and no later one was taken. -/
theorem runs_or_ends (p : Phase) (ms : List Message) (h : p.isEnded = false) :
    ((p.after settings ms).isEnded = false ∧ p.taken settings ms = ms.length) ∨
      ∃ before m rest e, ms = before ++ m :: rest ∧
        (p.after settings before).isEnded = false ∧
        ((p.after settings before).react settings m).next = .ended e ∧
        p.taken settings ms = before.length + 1 := by
  induction ms generalizing p with
  | nil => exact .inl ⟨h, rfl⟩
  | cons m ms ih =>
      have htaken := taken_cons settings p m ms h
      cases hnext : (p.react settings m).next.isEnded with
      | true =>
          obtain ⟨e, he⟩ := (isEnded_iff _).1 hnext
          refine .inr ⟨[], m, ms, e, rfl, h, he, ?_⟩
          rw [htaken, he, taken_ended]
          rfl
      | false =>
          rcases ih _ hnext with ⟨hrun, hall⟩ | ⟨before, m', rest, e, rfl, hrun, he, hcount⟩
          · exact .inl ⟨hrun, by rw [htaken, hall, List.length_cons]⟩
          · exact .inr ⟨m :: before, m', rest, e, rfl, hrun, he,
              by rw [htaken, hcount, List.length_cons]⟩

end Phase

/-! ## After `shutdown` -/

theorem sent_awaitingExit (ms : List Message) : Phase.awaitingExit.sent settings ms = [] := by
  cases ms with
  | nil => rfl
  | cons m ms =>
      obtain ⟨s, q, hmove⟩ := Phase.exists_move settings .awaitingExit m rfl
      rw [Phase.sent_move settings hmove]
      cases hmove with
      | farewell n hn => exact Phase.sent_ended settings _ ms
      | notExit _ hm => exact Phase.sent_ended settings _ ms

/-! ## Runs over a sound link -/

theorem perform_sound (as : List Action) :
    (perform .sound as).1.sent = (as.filterMap Action.send?).map Prod.fst ∧
      (perform .sound as).2 = (.sound, none) := by
  induction as with
  | nil => exact ⟨rfl, rfl⟩
  | cons a as ih =>
      obtain ⟨hsent, hend⟩ := ih
      cases a with
      | record r => exact ⟨hsent, hend⟩
      | send m f =>
          have hsend : Link.sound.send? = some .sound := rfl
          constructor
          · simp only [perform, hsend, List.filterMap_cons, Action.send?, List.map_cons, hsent]
          · simpa only [perform, hsend] using hend

/-- One message over a sound link: what the reaction sends reaches the client, and
the session moves to the phase that the reaction names. -/
theorem step_sound (p : Phase) (m : Message) :
    (State.step settings ⟨p, .sound⟩ m).1.sent = (p.react settings m).messages ∧
      (State.step settings ⟨p, .sound⟩ m).2 = ⟨(p.react settings m).next, .sound⟩ := by
  obtain ⟨hsent, hend⟩ := perform_sound (p.react settings m).actions
  unfold State.step State.carryOut
  rw [Prod.ext_iff] at hend
  obtain ⟨hlink, hbroken⟩ := hend
  simp only [hlink, hbroken, hsent, Reaction.messages, Reaction.sends, and_self]

theorem run_sound (p : Phase) (ms : List Message) :
    (State.run settings ⟨p, .sound⟩ ms).1.flatMap (·.sent) = p.sent settings ms ∧
      (State.run settings ⟨p, .sound⟩ ms).2 = ⟨p.after settings ms, .sound⟩ := by
  induction ms generalizing p with
  | nil => exact ⟨rfl, rfl⟩
  | cons m ms ih =>
      obtain ⟨hsent, hnext⟩ := step_sound settings p m
      obtain ⟨hrest, hend⟩ := ih (p.react settings m).next
      simp only [State.run, hnext, List.flatMap_cons, hsent, hrest, hend, Phase.sent_cons,
        Phase.after_cons, and_self]

theorem taken_sound (p : Phase) (ms : List Message) :
    State.taken settings ⟨p, .sound⟩ ms = p.taken settings ms := by
  induction ms generalizing p with
  | nil => rfl
  | cons m ms ih =>
      simp only [State.taken, Phase.taken, (step_sound settings p m).2, ih]

/-! ## Transcripts over a sound link -/

theorem start_eq (l : Link) :
    (State.start l).1.sent = [] ∧ (State.start l).2 = ⟨.awaitingInitialize, l⟩ :=
  ⟨rfl, rfl⟩

theorem transcript_sound_sent (ms : List Message) :
    (transcript settings .sound ms).sent = Phase.awaitingInitialize.sent settings ms := by
  have hrun := (run_sound settings .awaitingInitialize ms).1
  simpa [transcript, Transcript.sent, start_eq] using hrun

theorem transcript_sound_ending (ms : List Message) :
    (transcript settings .sound ms).ending =
      (Phase.awaitingInitialize.after settings ms).disconnect := by
  have hrun := (run_sound settings .awaitingInitialize ms).2
  simp [transcript, start_eq, hrun]

theorem transcript_sound_unread (ms : List Message) :
    (transcript settings .sound ms).unread =
      ms.length - Phase.awaitingInitialize.taken settings ms := by
  simp [transcript, start_eq, taken_sound]

/-- A session that is not ended by a message has taken all of them and ends with
the client's disconnection. Otherwise one message ends it, nothing is sent from
then on, and the messages behind it stay unread. -/
theorem transcript_runs_or_ends (ms : List Message) :
    ((transcript settings .sound ms).unread = 0 ∧
        (Phase.awaitingInitialize.after settings ms).isEnded = false) ∨
      ∃ before m rest e, ms = before ++ m :: rest ∧
        (Phase.awaitingInitialize.after settings before).isEnded = false ∧
        Move settings (Phase.awaitingInitialize.after settings before) m [] (.ended e) ∧
        (transcript settings .sound ms).ending = e ∧
        (transcript settings .sound ms).unread = rest.length ∧
        (transcript settings .sound ms).sent = Phase.awaitingInitialize.sent settings before := by
  rw [transcript_sound_unread, transcript_sound_ending, transcript_sound_sent]
  rcases Phase.runs_or_ends settings .awaitingInitialize ms rfl with
    ⟨hrun, hcount⟩ | ⟨before, m, rest, e, rfl, hrun, hend, hcount⟩
  · exact .inl ⟨by rw [hcount, Nat.sub_self], hrun⟩
  · have hmove := move_react settings (Phase.awaitingInitialize.after settings before) m hrun
    rw [hend] at hmove
    have hnone := hmove.sends_eq_nil
    rw [hnone] at hmove
    refine .inr ⟨before, m, rest, e, rfl, hrun, hmove, ?_, ?_, ?_⟩
    · rw [Phase.after_append, Phase.after_cons, hend, Phase.after_ended]
      rfl
    · rw [hcount, List.length_append, List.length_cons]
      omega
    · rw [Phase.sent_append, Phase.sent_cons, hend, Phase.sent_ended, Reaction.messages, hnone]
      simp

end LspAdapter.Session
