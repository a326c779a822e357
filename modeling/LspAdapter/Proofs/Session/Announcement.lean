import LspAdapter.Proofs.Session.Handshake
/-!
# What the settings change

The settings of a session show in one place only: once the handshake is complete,
the client is told how tsserver is used, unless the level holds that back.  All the
rest is the same whatever the settings.

* `run_settings` — two sessions with different settings, told apart by nothing else;
* `sent_completed` — where the announcement stands among the messages of a session.
-/

namespace LspAdapter

def Message.isLogged : Message → Bool
  | .notification n => n.method = "window/logMessage"
  | _ => false

namespace Session

def information (text : String) : Message :=
  .notification ⟨"window/logMessage", .object [("message", .text text), ("type", .int 3)]⟩

def announcement (settings : Settings) : List Message :=
  match settings.messageLevel with
  | .error | .warn => []
  | .info | .log =>
    [information ("Using tsserver from: " ++ settings.tsserverPath.getD "automatic discovery"),
      information ("tsserver log verbosity: " ++ settings.verbosity.name)]

/-- The messages of a client that completes the handshake: early ones, an
`initialize` that is accepted, its confirmation next to it, and later ones. -/
structure CompletesHandshake (ms early : List Message) (opening : Request)
    (later : List Message) : Prop where
  isEarly : ∀ m ∈ early, m.IsEarly
  method : opening.method = "initialize"
  accepted : ∃ client, Handshake.readParams opening.params = .ok client
  confirmed : ∃ n : Notification, n.method = "initialized" ∧
    ms = early ++ .request opening :: .notification n :: later

theorem announced_eq (settings : Settings) : announced settings = announcement settings := by
  unfold announced announcement
  cases settings.messageLevel <;> rfl

/-! ## Two sessions side by side -/

theorem filter_announced (settings : Settings) :
    (announced settings).filter (! ·.isLogged) = [] := by
  rw [announced_eq]
  unfold announcement
  cases settings.messageLevel <;> rfl

/-- Whatever the settings, a message leads to the same phase and is answered by the
same messages, texts for the log aside. -/
theorem move_settings {c d : Settings} {p q : Phase} {m : Message}
    {s : List (Message × OnFailure)} (h : Move c p m s q) :
    ∃ s', Move d p m s' q ∧
      (s.map Prod.fst).filter (! ·.isLogged) = (s'.map Prod.fst).filter (! ·.isLogged) := by
  cases h with
  | initialized n hn =>
      refine ⟨_, .initialized n hn, ?_⟩
      have hfst : ∀ settings, ((announced settings).map (·, OnFailure.report)).map Prod.fst =
          announced settings := by
        intro settings
        rw [List.map_map]
        exact List.map_id _
      rw [hfst, hfst, filter_announced, filter_announced]
  | earlyRequest r hr => exact ⟨_, .earlyRequest r hr, rfl⟩
  | opened r client hr hc => exact ⟨_, .opened r client hr hc, rfl⟩
  | badParams r f hr hf => exact ⟨_, .badParams r f hr hf, rfl⟩
  | earlyNotification n hn => exact ⟨_, .earlyNotification n hn, rfl⟩
  | earlyExit n hn => exact ⟨_, .earlyExit n hn, rfl⟩
  | earlyResponse r => exact ⟨_, .earlyResponse r, rfl⟩
  | notInitialized m hm => exact ⟨_, .notInitialized m hm, rfl⟩
  | shutdown r hr => exact ⟨_, .shutdown r hr, rfl⟩
  | request r hr => exact ⟨_, .request r hr, rfl⟩
  | response r => exact ⟨_, .response r, rfl⟩
  | notification n hn => exact ⟨_, .notification n hn, rfl⟩
  | exit n hn => exact ⟨_, .exit n hn, rfl⟩
  | farewell n hn => exact ⟨_, .farewell n hn, rfl⟩
  | notExit m hm => exact ⟨_, .notExit m hm, rfl⟩

theorem run_settings (c d : Settings) (p : Phase) (ms : List Message) :
    p.after c ms = p.after d ms ∧
      (p.sent c ms).filter (! ·.isLogged) = (p.sent d ms).filter (! ·.isLogged) := by
  induction ms generalizing p with
  | nil => exact ⟨rfl, rfl⟩
  | cons m ms ih =>
      cases hp : p.isEnded with
      | true =>
          obtain ⟨e, rfl⟩ := (Phase.isEnded_iff p).1 hp
          rw [Phase.after_ended, Phase.after_ended, Phase.sent_ended, Phase.sent_ended]
          exact ⟨rfl, rfl⟩
      | false =>
          obtain ⟨s, q, hmove⟩ := Phase.exists_move c p m hp
          obtain ⟨s', hmove', hsame⟩ := move_settings (d := d) hmove
          obtain ⟨hafter, hsent⟩ := ih q
          rw [Phase.after_move c hmove, Phase.after_move d hmove', Phase.sent_move c hmove,
            Phase.sent_move d hmove', List.filter_append, List.filter_append, hsame, hafter, hsent]
          exact ⟨rfl, rfl⟩

/-! ## The place of the announcement -/

variable (settings : Settings)

/-- After the handshake nothing but replies is sent, one for each of the first
requests. -/
theorem sent_serving (ms : List Message) :
    ∃ replies : List Response, Phase.serving.sent settings ms = replies.map .response ∧
      replies.map (·.id) <+: (requests ms).map (·.id) := by
  induction ms with
  | nil => exact ⟨[], rfl, List.nil_prefix⟩
  | cons m ms ih =>
      obtain ⟨replies, hsent, hids⟩ := ih
      obtain ⟨s, q, hmove⟩ := Phase.exists_move settings .serving m rfl
      rw [Phase.sent_move settings hmove]
      cases hmove with
      | shutdown r hr =>
          rw [sent_awaitingExit]
          exact ⟨[.ok r.id .null], rfl, List.cons_prefix_cons.2 ⟨rfl, List.nil_prefix⟩⟩
      | request r hr =>
          rw [hsent]
          exact ⟨methodNotFound r :: replies, rfl, List.cons_prefix_cons.2 ⟨rfl, hids⟩⟩
      | response r => exact ⟨replies, hsent, hids⟩
      | notification n hn => exact ⟨replies, hsent, hids⟩
      | exit n hn =>
          rw [Phase.sent_ended]
          exact ⟨[], rfl, List.nil_prefix⟩

/-- A session either completes the handshake or sends nothing but replies. -/
theorem completes_or_replies (ms : List Message) :
    (∃ early opening later, CompletesHandshake ms early opening later) ∨
      ∃ replies : List Response,
        Phase.awaitingInitialize.sent settings ms = replies.map .response := by
  induction ms with
  | nil => exact .inr ⟨[], rfl⟩
  | cons m ms ih =>
      obtain ⟨s, q, hmove⟩ := Phase.exists_move settings .awaitingInitialize m rfl
      rw [Phase.sent_move settings hmove]
      have hearly : m.IsEarly → q = .awaitingInitialize →
          (∃ reply : List Response, s.map Prod.fst = reply.map .response) →
          (∃ early opening later, CompletesHandshake (m :: ms) early opening later) ∨
            ∃ replies : List Response, s.map Prod.fst ++ q.sent settings ms =
              replies.map .response := by
        rintro hm rfl ⟨reply, hreply⟩
        rcases ih with ⟨early, opening, later, hcompletes⟩ | ⟨replies, hreplies⟩
        · obtain ⟨n, hn, rfl⟩ := hcompletes.confirmed
          exact .inl ⟨m :: early, opening, later,
            List.forall_mem_cons.2 ⟨hm, hcompletes.isEarly⟩, hcompletes.method,
            hcompletes.accepted, n, hn, rfl⟩
        · exact .inr ⟨reply ++ replies, by rw [hreply, hreplies, List.map_append]⟩
      cases hmove with
      | earlyRequest r hr => exact hearly hr rfl ⟨[notInitialized r], rfl⟩
      | earlyNotification n hn => exact hearly hn rfl ⟨[], rfl⟩
      | opened r client hr hc =>
          cases ms with
          | nil => exact .inr ⟨[.ok r.id serverDescription], rfl⟩
          | cons m ms =>
              obtain ⟨s, q, hnext⟩ := Phase.exists_move settings .awaitingInitialized m rfl
              cases hnext with
              | initialized n hn =>
                  exact .inl ⟨[], r, ms, by simp, hr, ⟨client, hc⟩, n, hn, rfl⟩
              | notInitialized m hm =>
                  rw [Phase.sent_move settings (.notInitialized m hm), Phase.sent_ended]
                  exact .inr ⟨[.ok r.id serverDescription], rfl⟩
      | badParams | earlyExit | earlyResponse =>
          rw [Phase.sent_ended]
          exact .inr ⟨[], rfl⟩

/-- The messages of a session that completes the handshake: the announcement stands
right behind the reply to `initialize`, and only replies follow it. -/
theorem sent_completed {ms early later : List Message} {opening : Request}
    (h : CompletesHandshake ms early opening later) :
    ∃ replies : List Response, replies.map (·.id) <+: (requests later).map (·.id) ∧
      Phase.awaitingInitialize.sent settings ms =
        earlyReplies early ++ .response (.ok opening.id serverDescription) ::
          (announcement settings ++ replies.map .response) := by
  obtain ⟨client, hc⟩ := h.accepted
  obtain ⟨n, hn, rfl⟩ := h.confirmed
  obtain ⟨replies, hsent, hids⟩ := sent_serving settings later
  refine ⟨replies, hids, ?_⟩
  rw [(early_append settings early _ h.isEarly).2,
    Phase.sent_move settings (.opened opening client h.method hc),
    Phase.sent_move settings (.initialized n hn), hsent, announced_eq, List.map_map]
  simp [Function.comp_def]

/-- Two sessions with different settings end alike and send the same messages, texts
for the log aside. Of these there are none if the handshake is not completed;
otherwise they are the announcement, right behind the reply to `initialize`. -/
theorem settings_announced (c d : Settings) (ms : List Message) :
    let t := transcript c .sound ms
    let u := transcript d .sound ms
    (t.ending = u.ending ∧ t.sent.filter (! ·.isLogged) = u.sent.filter (! ·.isLogged)) ∧
      ((∀ early opening later, ¬ CompletesHandshake ms early opening later) →
        ∃ replies : List Response, t.sent = replies.map .response) ∧
      ∀ early opening later, CompletesHandshake ms early opening later →
        ∃ replies : List Response, replies.map (·.id) <+: (requests later).map (·.id) ∧
          t.sent = earlyReplies early ++ .response (.ok opening.id serverDescription) ::
            (announcement c ++ replies.map .response) := by
  intro t u
  obtain ⟨hafter, hsent⟩ := run_settings c d .awaitingInitialize ms
  simp only [t, u, transcript_sound_ending, transcript_sound_sent]
  refine ⟨⟨congrArg Phase.disconnect hafter, hsent⟩, ?_, ?_⟩
  · intro hnone
    rcases completes_or_replies c ms with ⟨early, opening, later, h⟩ | hreplies
    · exact absurd h (hnone early opening later)
    · exact hreplies
  · intro early opening later h
    exact sent_completed c h

end Session

end LspAdapter
