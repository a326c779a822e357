import LspAdapter.Proofs.Session.Handshake
import LspAdapter.Proofs.Session.LostClient
/-!
# Sessions that crash

A client may be lost at any point of a session.  The session crashes if and only if
the first message that does not reach the client is a reply of the handshake.  Any
other such message makes the session fail, the reply to `shutdown` aside, which is
not missed.
-/

namespace LspAdapter.Session

variable (settings : Settings)

/-- A client that gets `n` messages and then no more misses a reply of the
handshake: `n` requests among early messages have been replied to, and the next
request is early, too, or an `initialize` whose parameters are accepted. -/
def MissesHandshakeReply (n : Nat) (ms : List Message) : Prop :=
  ∃ early r rest, ms = early ++ .request r :: rest ∧ (∀ m ∈ early, m.IsEarly) ∧
    (requests early).length = n ∧
    (r.method = "initialize" → ∃ client, Handshake.readParams r.params = .ok client)

/-- Only the replies of the handshake are sent in such a way that their loss is a
crash. -/
theorem crash_move {p q : Phase} {m : Message} {s : List (Message × OnFailure)} {k : Nat}
    (h : Move settings p m s q)
    (hcrash : firstBreak ((s.drop k).map Prod.snd) = some .crashed) :
    p = .awaitingInitialize ∧ s.length = 1 ∧ ∃ r, m = .request r ∧
      (r.method = "initialize" → ∃ client, Handshake.readParams r.params = .ok client) := by
  cases h with
  | earlyRequest r hr => exact ⟨rfl, rfl, r, rfl, fun hm => absurd hm hr⟩
  | opened r client hr hc => exact ⟨rfl, rfl, r, rfl, fun _ => ⟨client, hc⟩⟩
  | initialized n hn =>
      rw [← List.map_drop] at hcrash
      cases hd : (announced settings).drop k with
      | nil =>
          rw [hd] at hcrash
          cases hcrash
      | cons m ms =>
          rw [hd, firstBreak_report _ (List.cons_ne_nil m ms)] at hcrash
          cases hcrash
  | shutdown r hr => cases k <;> simp [firstBreak] at hcrash
  | request r hr => cases k <;> simp [firstBreak] at hcrash
  | _ => simp [firstBreak] at hcrash

/-- The place at which a reply of the handshake gets lost. -/
theorem losingMove_of_early (early : List Message) (r : Request)
    (h : ∀ m ∈ early, m.IsEarly)
    (hr : r.method = "initialize" → ∃ client, Handshake.readParams r.params = .ok client) :
    ∃ s q, LosingMove settings (requests early).length early (.request r) s q ∧
      breakAt settings (requests early).length early s = some .crashed := by
  have hafter := after_early settings early h
  have hlength : (Phase.awaitingInitialize.sent settings early).length =
      (requests early).length := by
    rw [sent_early settings early h, length_earlyReplies]
  have hlosing : ∀ reply q, Move settings .awaitingInitialize (.request r) [(reply, .crash)] q →
      LosingMove settings (requests early).length early (.request r) [(reply, .crash)] q ∧
        breakAt settings (requests early).length early [(reply, .crash)] = some .crashed := by
    intro reply q hmove
    refine ⟨⟨by rwa [hafter], Nat.le_of_eq hlength, ?_⟩, ?_⟩
    · rw [hlength, Nat.sub_self]
      exact Nat.one_pos
    · rw [breakAt, hlength, Nat.sub_self]
      rfl
  by_cases hm : r.method = "initialize"
  · obtain ⟨client, hc⟩ := hr hm
    exact ⟨_, _, hlosing _ _ (.opened r client hm hc)⟩
  · exact ⟨_, _, hlosing _ _ (.earlyRequest r hm)⟩

theorem crashed_of_misses (n : Nat) (ms : List Message) (h : MissesHandshakeReply n ms) :
    (transcript settings (.ofRoom n) ms).ending = .failed .crashed := by
  obtain ⟨early, r, rest, rfl, hearly, rfl, hr⟩ := h
  obtain ⟨s, q, hlosing, hbreak⟩ := losingMove_of_early settings early r hearly hr
  rw [(hlosing.ending_of_break rest hbreak).1]
  rfl

theorem misses_of_crashed (n : Nat) (ms : List Message)
    (h : (transcript settings (.ofRoom n) ms).ending = .failed .crashed) :
    MissesHandshakeReply n ms := by
  have hwhole : (transcript settings .sound ms).ending ≠ .failed .crashed := by
    intro hcrashed
    have hloss := not_isLoss_transcript_sound settings ms
    rw [hcrashed] at hloss
    exact hloss trivial
  rcases Nat.lt_or_ge n (Phase.awaitingInitialize.sent settings ms).length with hlt | hge
  · obtain ⟨early, m, rest, s, q, rfl, hlosing⟩ := exists_losingMove settings n ms hlt
    cases hbreak : breakAt settings n early s with
    | none =>
        rw [(hlosing.ending_of_ignored rest hbreak).1] at h
        exact absurd h hwhole
    | some b =>
        rw [(hlosing.ending_of_break rest hbreak).1] at h
        cases b with
        | reported => cases h
        | crashed =>
            obtain ⟨hafter, hlength, r, rfl, hr⟩ := crash_move settings hlosing.move hbreak
            have hearly := isEarly_of_after settings early hafter
            refine ⟨early, r, rest, rfl, hearly, ?_, hr⟩
            have hle := hlosing.le
            have hlt := hlosing.lt
            rw [sent_early settings early hearly, length_earlyReplies] at hle hlt
            omega
  · rw [(same_of_room settings n ms hge).1] at h
    exact absurd h hwhole

/-- A session crashes exactly if its client misses a reply of the handshake. If it
misses another message, the session fails to send it or, if it is the reply to
`shutdown`, ends as if it had been received. A client that misses nothing makes no
difference. -/
theorem crashed_iff_misses (n : Nat) (ms : List Message) :
    let whole := transcript settings .sound ms
    let cut := transcript settings (.ofRoom n) ms
    (cut.ending = .failed .crashed ↔ MissesHandshakeReply n ms) ∧
      (¬ MissesHandshakeReply n ms → ∀ lost, whole.sent[n]? = some lost →
        cut.ending = .failed .sendFailed ∨
          (∃ id, lost = .response (.ok id .null)) ∧ cut.ending = whole.ending) ∧
      (whole.sent[n]? = none → cut.ending = whole.ending) := by
  intro whole cut
  have hcrash : cut.ending = .failed .crashed ↔ MissesHandshakeReply n ms :=
    ⟨misses_of_crashed settings n ms, crashed_of_misses settings n ms⟩
  refine ⟨hcrash, ?_, ?_⟩
  · intro hmisses lost hlost
    rw [show whole.sent = _ from transcript_sound_sent settings ms] at hlost
    obtain ⟨lost', _, _, _, q, broken, _, _, _, hlost', hloss, hbroken, hignored⟩ :=
      exists_loss settings n ms (List.getElem?_eq_some_iff.1 hlost).1
    cases hlost.symm.trans hlost'
    cases hloss with
    | early r => exact absurd (hcrash.1 (hbroken .crashed rfl).1) hmisses
    | description r => exact absurd (hcrash.1 (hbroken .crashed rfl).1) hmisses
    | announcement text hlevel htext => exact .inl (hbroken .reported rfl).1
    | unknown r => exact .inl (hbroken .reported rfl).1
    | shutdown r => exact .inr ⟨⟨r.id, rfl⟩, (hignored rfl).1⟩
  · intro hnone
    rw [show whole.sent = _ from transcript_sound_sent settings ms] at hnone
    exact (same_of_room settings n ms (List.getElem?_eq_none_iff.1 hnone)).1

/-- A request before `initialize` whose reply gets lost makes the session crash. -/
theorem exists_crash : ¬ ∀ (settings : Settings) (n : Nat) (ms : List Message),
    (transcript settings (.ofRoom n) ms).ending ≠ .failed .crashed := by
  intro h
  exact h .standard 0 [.request ⟨.number 1, "foo", .null⟩] rfl

end LspAdapter.Session
