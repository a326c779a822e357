import LspAdapter.Proofs.Session.Sound
/-!
# The sessions that end well

A session ends well exactly if its messages form a dialogue: some early
messages, the request that opens the handshake, its confirmation, some ordinary
messages, and a farewell.  After a farewell anything may come; a client that
says nothing more may also just disconnect.

For each phase a lemma says which messages lead from it to a good end;
`finished_iff_dialogue` puts them together.
-/

namespace LspAdapter

/-- A message that a session does not mind before the handshake: a request other
than `initialize`, or a notification other than `exit`. -/
def Message.IsEarly : Message → Prop
  | .request r => r.method ≠ "initialize"
  | .notification n => n.method ≠ "exit"
  | .response _ => False

def Message.IsOrdinary : Message → Prop
  | .request r => r.method ≠ "shutdown"
  | .notification n => n.method ≠ "exit"
  | .response _ => True

namespace Session

/-- How a client takes its leave: silently, with `exit`, or with `shutdown` and
`exit` next to each other. -/
inductive Farewell : List Message → Prop
  | silent : Farewell []
  | exit (n : Notification) (rest : List Message) : n.method = "exit" →
      Farewell (.notification n :: rest)
  | shutdown (r : Request) (n : Notification) (rest : List Message) : r.method = "shutdown" →
      n.method = "exit" → Farewell (.request r :: .notification n :: rest)

inductive Dialogue : List Message → Prop
  | mk (early : List Message) (opening : Request) (client : Option Handshake.Client)
      (confirmation : Notification) (ordinary farewell : List Message) :
      (∀ m ∈ early, m.IsEarly) →
      opening.method = "initialize" → Handshake.readParams opening.params = .ok client →
      confirmation.method = "initialized" →
      (∀ m ∈ ordinary, m.IsOrdinary) → Farewell farewell →
      Dialogue (early ++
        .request opening :: .notification confirmation :: (ordinary ++ farewell))

variable (settings : Settings)

def Phase.Finishes (p : Phase) (ms : List Message) : Prop :=
  (p.after settings ms).disconnect = .finished

theorem Phase.finishes_move {p q : Phase} {m : Message} {s : List (Message × OnFailure)}
    (h : Move settings p m s q) (ms : List Message) :
    p.Finishes settings (m :: ms) ↔ q.Finishes settings ms := by
  rw [Phase.Finishes, Phase.after_move settings h, Phase.Finishes]

theorem Phase.finishes_ended (e : Ending) (ms : List Message) :
    (Phase.ended e).Finishes settings ms ↔ e = .finished := by
  rw [Phase.Finishes, Phase.after_ended]
  rfl

/-! ## After `shutdown` -/

theorem finishes_awaitingExit_iff (ms : List Message) :
    Phase.awaitingExit.Finishes settings ms ↔
      ∃ n rest, ms = .notification n :: rest ∧ n.method = "exit" := by
  constructor
  · intro h
    cases ms with
    | nil => cases h
    | cons m rest =>
        obtain ⟨s, q, hmove⟩ := Phase.exists_move settings .awaitingExit m rfl
        rw [Phase.finishes_move settings hmove] at h
        cases hmove with
        | farewell n hn => exact ⟨n, rest, rfl, hn⟩
        | notExit _ hm =>
            rw [Phase.finishes_ended] at h
            cases h
  · rintro ⟨n, rest, rfl, hn⟩
    rw [Phase.finishes_move settings (.farewell n hn), Phase.finishes_ended]

/-! ## After the handshake -/

theorem exists_farewell_of_finishes (ms : List Message)
    (h : Phase.serving.Finishes settings ms) :
    ∃ ordinary farewell, ms = ordinary ++ farewell ∧
      (∀ m ∈ ordinary, m.IsOrdinary) ∧ Farewell farewell := by
  induction ms with
  | nil => exact ⟨[], [], rfl, by simp, .silent⟩
  | cons m ms ih =>
      obtain ⟨s, q, hmove⟩ := Phase.exists_move settings .serving m rfl
      rw [Phase.finishes_move settings hmove] at h
      have hordinary : m.IsOrdinary → Phase.serving.Finishes settings ms →
          ∃ ordinary farewell, m :: ms = ordinary ++ farewell ∧
            (∀ m ∈ ordinary, m.IsOrdinary) ∧ Farewell farewell := by
        intro hm hrest
        obtain ⟨ordinary, farewell, rfl, hall, hfarewell⟩ := ih hrest
        exact ⟨m :: ordinary, farewell, rfl, List.forall_mem_cons.2 ⟨hm, hall⟩, hfarewell⟩
      cases hmove with
      | shutdown r hr =>
          obtain ⟨n, rest, rfl, hn⟩ := (finishes_awaitingExit_iff settings ms).1 h
          exact ⟨[], _, rfl, by simp, .shutdown r n rest hr hn⟩
      | request r hr => exact hordinary hr h
      | response r => exact hordinary trivial h
      | notification n hn => exact hordinary hn h
      | exit n hn => exact ⟨[], _, rfl, by simp, .exit n ms hn⟩

theorem finishes_of_farewell (farewell : List Message) (h : Farewell farewell) :
    Phase.serving.Finishes settings farewell := by
  cases h with
  | silent => rfl
  | exit n rest hn => rw [Phase.finishes_move settings (.exit n hn), Phase.finishes_ended]
  | shutdown r n rest hr hn =>
      rw [Phase.finishes_move settings (.shutdown r hr), finishes_awaitingExit_iff]
      exact ⟨n, rest, rfl, hn⟩

theorem finishes_ordinary_append (ordinary rest : List Message)
    (h : ∀ m ∈ ordinary, m.IsOrdinary) :
    Phase.serving.Finishes settings (ordinary ++ rest) ↔
      Phase.serving.Finishes settings rest := by
  induction ordinary with
  | nil => rfl
  | cons m ordinary ih =>
      obtain ⟨hm, hordinary⟩ := List.forall_mem_cons.1 h
      rw [List.cons_append]
      cases m with
      | request r => rw [Phase.finishes_move settings (.request r hm), ih hordinary]
      | response r => rw [Phase.finishes_move settings (.response r), ih hordinary]
      | notification n => rw [Phase.finishes_move settings (.notification n hm), ih hordinary]

/-! ## The handshake -/

theorem finishes_awaitingInitialized_iff (ms : List Message) :
    Phase.awaitingInitialized.Finishes settings ms ↔
      ∃ n rest, ms = .notification n :: rest ∧ n.method = "initialized" ∧
        Phase.serving.Finishes settings rest := by
  constructor
  · intro h
    cases ms with
    | nil => cases h
    | cons m rest =>
        obtain ⟨s, q, hmove⟩ := Phase.exists_move settings .awaitingInitialized m rfl
        rw [Phase.finishes_move settings hmove] at h
        cases hmove with
        | initialized n hn => exact ⟨n, rest, rfl, hn, h⟩
        | notInitialized _ hm =>
            rw [Phase.finishes_ended] at h
            cases h
  · rintro ⟨n, rest, rfl, hn, h⟩
    rwa [Phase.finishes_move settings (.initialized n hn)]

theorem exists_opening_of_finishes (ms : List Message)
    (h : Phase.awaitingInitialize.Finishes settings ms) :
    ∃ early r client rest, ms = early ++ .request r :: rest ∧ (∀ m ∈ early, m.IsEarly) ∧
      r.method = "initialize" ∧ Handshake.readParams r.params = .ok client ∧
      Phase.awaitingInitialized.Finishes settings rest := by
  induction ms with
  | nil => cases h
  | cons m ms ih =>
      obtain ⟨s, q, hmove⟩ := Phase.exists_move settings .awaitingInitialize m rfl
      rw [Phase.finishes_move settings hmove] at h
      cases hmove with
      | earlyRequest r hr =>
          obtain ⟨early, r', client, rest, rfl, hearly, hrest⟩ := ih h
          exact ⟨.request r :: early, r', client, rest, rfl,
            List.forall_mem_cons.2 ⟨hr, hearly⟩, hrest⟩
      | earlyNotification n hn =>
          obtain ⟨early, r', client, rest, rfl, hearly, hrest⟩ := ih h
          exact ⟨.notification n :: early, r', client, rest, rfl,
            List.forall_mem_cons.2 ⟨hn, hearly⟩, hrest⟩
      | opened r client hr hc => exact ⟨[], r, client, ms, rfl, by simp, hr, hc, h⟩
      | badParams r f hr hf =>
          rw [Phase.finishes_ended] at h
          cases h
      | earlyExit n hn =>
          rw [Phase.finishes_ended] at h
          cases h
      | earlyResponse r =>
          rw [Phase.finishes_ended] at h
          cases h

theorem finishes_early_append (early rest : List Message) (h : ∀ m ∈ early, m.IsEarly) :
    Phase.awaitingInitialize.Finishes settings (early ++ rest) ↔
      Phase.awaitingInitialize.Finishes settings rest := by
  induction early with
  | nil => rfl
  | cons m early ih =>
      obtain ⟨hm, hearly⟩ := List.forall_mem_cons.1 h
      rw [List.cons_append]
      cases m with
      | request r => rw [Phase.finishes_move settings (.earlyRequest r hm), ih hearly]
      | response r => cases hm
      | notification n => rw [Phase.finishes_move settings (.earlyNotification n hm), ih hearly]

/-! ## Whole sessions -/

theorem finishes_iff_dialogue (ms : List Message) :
    Phase.awaitingInitialize.Finishes settings ms ↔ Dialogue ms := by
  constructor
  · intro h
    obtain ⟨early, opening, client, rest, rfl, hearly, hmethod, hparams, hrest⟩ :=
      exists_opening_of_finishes settings ms h
    obtain ⟨confirmation, rest, rfl, hconfirmation, hrest⟩ :=
      (finishes_awaitingInitialized_iff settings rest).1 hrest
    obtain ⟨ordinary, farewell, rfl, hordinary, hfarewell⟩ :=
      exists_farewell_of_finishes settings rest hrest
    exact .mk early opening client confirmation ordinary farewell hearly hmethod hparams
      hconfirmation hordinary hfarewell
  · rintro ⟨early, opening, client, confirmation, ordinary, farewell, hearly, hmethod, hparams,
      hconfirmation, hordinary, hfarewell⟩
    rw [finishes_early_append settings early _ hearly,
      Phase.finishes_move settings (.opened opening client hmethod hparams),
      finishes_awaitingInitialized_iff]
    refine ⟨confirmation, ordinary ++ farewell, rfl, hconfirmation, ?_⟩
    rw [finishes_ordinary_append settings ordinary farewell hordinary]
    exact finishes_of_farewell settings farewell hfarewell

/-- A session ends well if and only if its messages form a dialogue; every other
session fails. -/
theorem finished_iff_dialogue (ms : List Message) :
    ((transcript settings .sound ms).ending = .finished ↔ Dialogue ms) ∧
      ((∃ f, (transcript settings .sound ms).ending = .failed f) ↔ ¬ Dialogue ms) := by
  have hfinished : (transcript settings .sound ms).ending = .finished ↔ Dialogue ms := by
    rw [transcript_sound_ending]
    exact finishes_iff_dialogue settings ms
  refine ⟨hfinished, ?_⟩
  rw [← hfinished]
  cases (transcript settings .sound ms).ending with
  | finished => simp
  | failed f => simp

end Session

end LspAdapter
