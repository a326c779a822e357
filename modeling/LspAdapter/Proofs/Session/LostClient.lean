import LspAdapter.Proofs.Session.Run
/-!
# Sessions that lose their client

A client that receives some messages and then no more is compared with one that
receives everything.  Up to the first message that does not get through, both
sessions do the same.  What follows depends on that message: a reply of the
handshake makes the session crash, an announcement or the reply to an unknown
method makes it fail, and the reply to `shutdown` is not missed.

* `run_ofRoom_sent` — what is delivered is a prefix of what is sent;
* `loss_move` — the messages that can get lost, and what each of them means;
* `transcript_ofRoom` — both sessions compared as a whole;
* `transcriptUntilLost_eq` — a client that hangs up is such a client.
-/

namespace LspAdapter.Session

variable (settings : Settings)

def firstBreak : List OnFailure → Option Break
  | [] => none
  | .crash :: _ => some .crashed
  | .report :: _ => some .reported
  | .ignore :: fs => firstBreak fs

def Phase.orBroken (q : Phase) : Option Break → Phase
  | none => q
  | some b => .ended (.failed (match b with
      | .crashed => .crashed
      | .reported => .sendFailed))

/-! ## One message -/

/-- Of the sends of some actions as many succeed as there is room for, and the
others fail. -/
theorem perform_ofRoom (n : Nat) (as : List Action) :
    (perform (.ofRoom n) as).1.sent = ((as.filterMap Action.send?).map Prod.fst).take n ∧
      (perform (.ofRoom n) as).2 =
        (.ofRoom (n - (as.filterMap Action.send?).length),
          firstBreak (((as.filterMap Action.send?).drop n).map Prod.snd)) := by
  induction as generalizing n with
  | nil => simp [perform, Effect.none, firstBreak]
  | cons a as ih =>
      cases a with
      | record r => exact ih n
      | send m f =>
          cases n with
          | zero =>
              have hsend : (Link.ofRoom 0).send? = none := rfl
              cases f with
              | crash => simp [perform, hsend, Action.send?, Effect.none, firstBreak]
              | report => simp [perform, hsend, Action.send?, Effect.none, firstBreak]
              | ignore =>
                  obtain ⟨hsent, hend⟩ := ih 0
                  simp only [perform, hsend, List.filterMap_cons, Action.send?]
                  refine ⟨by rw [hsent, List.take_zero, List.take_zero], ?_⟩
                  rw [hend, Nat.zero_sub, Nat.zero_sub]
                  rfl
          | succ n =>
              have hsend : (Link.ofRoom (n + 1)).send? = some (.ofRoom n) := rfl
              obtain ⟨hsent, hend⟩ := ih n
              simp only [perform, hsend, List.filterMap_cons, Action.send?, List.map_cons,
                List.take_succ_cons, List.drop_succ_cons, List.length_cons, hsent, hend,
                Nat.add_sub_add_right, and_self]

theorem step_ofRoom (p : Phase) (n : Nat) (m : Message) :
    (State.step settings ⟨p, .ofRoom n⟩ m).1.sent = (p.react settings m).messages.take n ∧
      (State.step settings ⟨p, .ofRoom n⟩ m).2 =
        ⟨(p.react settings m).next.orBroken
            (firstBreak (((p.react settings m).sends.drop n).map Prod.snd)),
          .ofRoom (n - (p.react settings m).messages.length)⟩ := by
  obtain ⟨hsent, hend⟩ := perform_ofRoom n (p.react settings m).actions
  rw [Prod.ext_iff] at hend
  obtain ⟨hlink, hbroken⟩ := hend
  simp only [State.step, State.carryOut, hlink, hbroken, Reaction.messages, Reaction.sends,
    List.length_map]
  cases hb : firstBreak
      (((p.react settings m).actions.filterMap Action.send?).drop n |>.map Prod.snd) with
  | none => exact ⟨hsent, rfl⟩
  | some b => cases b <;> exact ⟨hsent, rfl⟩

theorem perform_ofRoom_of_le (n : Nat) (as : List Action)
    (h : (as.filterMap Action.send?).length ≤ n) :
    (perform (.ofRoom n) as).1 = (perform .sound as).1 := by
  induction as generalizing n with
  | nil => rfl
  | cons a as ih =>
      cases a with
      | record r => simp only [perform, ih n h]
      | send m f =>
          cases n with
          | zero => simp [Action.send?] at h
          | succ n =>
              have hrest := ih n (by simpa [Action.send?] using h)
              have hroom : (Link.ofRoom (n + 1)).send? = some (.ofRoom n) := rfl
              have hsound : Link.sound.send? = some .sound := rfl
              simp only [perform, hroom, hsound, hrest]

theorem step_effect (s : State) (m : Message) :
    (s.step settings m).1 = (perform s.link (s.phase.react settings m).actions).1 := by
  simp only [State.step, State.carryOut]
  split <;> rfl

theorem step_ofRoom_of_le (p : Phase) (n : Nat) (m : Message)
    (h : (p.react settings m).messages.length ≤ n) :
    State.step settings ⟨p, .ofRoom n⟩ m =
      ((State.step settings ⟨p, .sound⟩ m).1,
        ⟨(p.react settings m).next, .ofRoom (n - (p.react settings m).messages.length)⟩) := by
  have hlength : (p.react settings m).sends.length ≤ n := by
    simpa only [Reaction.messages, List.length_map] using h
  apply Prod.ext
  · rw [step_effect, step_effect]
    exact perform_ofRoom_of_le n _ hlength
  · rw [(step_ofRoom settings p n m).2, List.drop_of_length_le hlength]
    rfl

/-! ## Runs -/

/-- What reaches a client that receives some messages and then no more are the
first of all the messages that are sent. -/
theorem run_ofRoom_sent (p : Phase) (n : Nat) (ms : List Message) :
    (State.run settings ⟨p, .ofRoom n⟩ ms).1.flatMap (·.sent) = (p.sent settings ms).take n := by
  induction ms generalizing p n with
  | nil => simp [State.run]
  | cons m ms ih =>
      obtain ⟨hsent, hnext⟩ := step_ofRoom settings p n m
      simp only [State.run, List.flatMap_cons, hsent, hnext, ih, Phase.sent_cons,
        List.take_append]
      rcases Nat.lt_or_ge n (p.react settings m).messages.length with hlt | hge
      · rw [Nat.sub_eq_zero_of_le (Nat.le_of_lt hlt), List.take_zero, List.take_zero]
      · have hlength : (p.react settings m).sends.length ≤ n := by
          simpa only [Reaction.messages, List.length_map] using hge
        rw [List.drop_of_length_le hlength]
        rfl

theorem run_ofRoom_of_le (p : Phase) (n : Nat) (ms : List Message)
    (h : (p.sent settings ms).length ≤ n) :
    State.run settings ⟨p, .ofRoom n⟩ ms =
        ((State.run settings ⟨p, .sound⟩ ms).1,
          ⟨p.after settings ms, .ofRoom (n - (p.sent settings ms).length)⟩) ∧
      State.taken settings ⟨p, .ofRoom n⟩ ms = p.taken settings ms := by
  induction ms generalizing p n with
  | nil => exact ⟨rfl, rfl⟩
  | cons m ms ih =>
      rw [Phase.sent_cons, List.length_append] at h
      have hstep := step_ofRoom_of_le settings p n m (by omega)
      obtain ⟨hrun, htaken⟩ := ih (p.react settings m).next
        (n - (p.react settings m).messages.length) (by omega)
      constructor
      · simp only [State.run, hstep, hrun, (step_sound settings p m).2, Phase.sent_cons,
          List.length_append, Phase.after_cons, Nat.sub_sub]
      · simp only [State.taken, Phase.taken, hstep, htaken]

/-! ## The first message that does not get through -/

/-- The message that is sent at some place is sent in reply to one of those that
are taken. -/
theorem exists_sending (p : Phase) (n : Nat) (ms : List Message)
    (h : n < (p.sent settings ms).length) :
    ∃ before m rest, ms = before ++ m :: rest ∧ (p.sent settings before).length ≤ n ∧
      n < (p.sent settings (before ++ [m])).length := by
  induction ms generalizing p n with
  | nil => simp at h
  | cons m ms ih =>
      rcases Nat.lt_or_ge n (p.react settings m).messages.length with hlt | hge
      · exact ⟨[], m, ms, rfl, Nat.zero_le n, by simpa using hlt⟩
      · rw [Phase.sent_cons, List.length_append] at h
        obtain ⟨before, m', rest, rfl, hle, hlt⟩ := ih (p.react settings m).next
          (n - (p.react settings m).messages.length) (by omega)
        refine ⟨m :: before, m', rest, rfl, ?_, ?_⟩
        · rw [Phase.sent_cons, List.length_append]
          omega
        · rw [List.cons_append, Phase.sent_cons, List.length_append]
          omega

/-- The messages that can get lost, what the session waits for next if it goes on,
and how it breaks off if it does not. -/
inductive Loss : Message → Phase → Option Break → Prop
  | early (r : Request) :
      Loss (.response (notInitialized r)) .awaitingInitialize (some .crashed)
  | description (r : Request) :
      Loss (.response (.ok r.id serverDescription)) .awaitingInitialized (some .crashed)
  | announcement (text : String) : settings.messageLevel.admits .info = true →
      text ∈ announcements settings →
      Loss (.notification (logMessage .info text)) .serving (some .reported)
  | unknown (r : Request) : Loss (.response (methodNotFound r)) .serving (some .reported)
  | shutdown (r : Request) : Loss (.response (.ok r.id .null)) .awaitingExit none

theorem Loss.eq_awaitingExit {lost : Message} {q : Phase} (h : Loss settings lost q none) :
    q = .awaitingExit := by
  cases h
  rfl

theorem firstBreak_report (ms : List Message) (h : ms ≠ []) :
    firstBreak ((ms.map (·, OnFailure.report)).map Prod.snd) = some .reported := by
  cases ms with
  | nil => exact absurd rfl h
  | cons m ms => rfl

theorem mem_announced {m : Message} (h : m ∈ announced settings) :
    settings.messageLevel.admits .info = true ∧
      ∃ text ∈ announcements settings, m = .notification (logMessage .info text) := by
  unfold announced at h
  split at h
  · rename_i hlevel
    obtain ⟨text, htext, rfl⟩ := List.mem_map.1 h
    exact ⟨hlevel, text, htext, rfl⟩
  · cases h

/-- What the loss of a message means, from the send that fails first. -/
theorem loss_move {p q : Phase} {m lost : Message} {s : List (Message × OnFailure)} {k : Nat}
    (h : Move settings p m s q) (hlost : (s.map Prod.fst)[k]? = some lost) :
    Loss settings lost q (firstBreak ((s.drop k).map Prod.snd)) := by
  have hsingle : ∀ (reply : Message) (f : OnFailure),
      (([(reply, f)] : List (Message × OnFailure)).map Prod.fst)[k]? = some lost →
      lost = reply ∧ k = 0 := by
    intro reply f hreply
    cases k with
    | zero => exact ⟨(Option.some.inj hreply).symm, rfl⟩
    | succ k => cases hreply
  cases h with
  | earlyRequest r hr =>
      obtain ⟨rfl, rfl⟩ := hsingle _ _ hlost
      exact .early r
  | opened r client hr hc =>
      obtain ⟨rfl, rfl⟩ := hsingle _ _ hlost
      exact .description r
  | initialized n hn =>
      rw [List.map_map] at hlost
      have hget : (announced settings)[k]? = some lost := by
        simpa [Function.comp_def] using hlost
      obtain ⟨hlevel, text, htext, rfl⟩ := mem_announced settings (List.mem_of_getElem? hget)
      have hdrop : (announced settings).drop k ≠ [] := by
        have hlt := (List.getElem?_eq_some_iff.1 hget).1
        exact fun hnil => absurd (List.drop_eq_nil_iff.1 hnil) (Nat.not_le_of_lt hlt)
      rw [← List.map_drop, firstBreak_report _ hdrop]
      exact .announcement text hlevel htext
  | request r hr =>
      obtain ⟨rfl, rfl⟩ := hsingle _ _ hlost
      exact .unknown r
  | shutdown r hr =>
      obtain ⟨rfl, rfl⟩ := hsingle _ _ hlost
      exact .shutdown r
  | badParams => cases hlost
  | earlyNotification => cases hlost
  | earlyExit => cases hlost
  | earlyResponse => cases hlost
  | notInitialized => cases hlost
  | response => cases hlost
  | notification => cases hlost
  | exit => cases hlost
  | farewell => cases hlost
  | notExit => cases hlost

/-! ## Whole sessions -/

/-- How a session fares whose client loses a message, beside the session whose
client receives everything. Of the messages of the client, `left` are behind the
one at hand. -/
structure FaresAfter (lost : Message) (left : Nat) (whole cut : Transcript) : Prop where
  /-- A lost announcement ends the session at once. -/
  announcement : ∀ text, lost = .notification (logMessage .info text) →
    cut.ending = .failed .sendFailed ∧ cut.unread = left
  /-- So does the reply to an unknown method. -/
  unknown : ∀ r, lost = .response (methodNotFound r) →
    cut.ending = .failed .sendFailed ∧ cut.unread = left
  /-- The reply to `shutdown` is not missed. -/
  shutdown : ∀ id, lost = .response (.ok id .null) →
    cut.ending = whole.ending ∧ cut.unread = whole.unread
  /-- A lost reply of the handshake makes the session crash. -/
  handshake : ∀ r, lost = .response (notInitialized r) ∨
      lost = .response (.ok r.id serverDescription) →
    cut.ending = .failed .crashed ∧ cut.unread = left

theorem transcript_ofRoom_sent (n : Nat) (ms : List Message) :
    (transcript settings (.ofRoom n) ms).sent =
      (Phase.awaitingInitialize.sent settings ms).take n := by
  have hrun := run_ofRoom_sent settings .awaitingInitialize n ms
  simpa [transcript, Transcript.sent, start_eq] using hrun

theorem transcript_ofRoom_ending (n : Nat) (ms : List Message) :
    (transcript settings (.ofRoom n) ms).ending =
      (State.run settings ⟨.awaitingInitialize, .ofRoom n⟩ ms).2.phase.disconnect := by
  simp [transcript, start_eq]

theorem transcript_ofRoom_unread (n : Nat) (ms : List Message) :
    (transcript settings (.ofRoom n) ms).unread =
      ms.length - State.taken settings ⟨.awaitingInitialize, .ofRoom n⟩ ms := by
  simp [transcript, start_eq]

/-- The message whose handling is the first to lose a message, where `n` messages
reach the client: up to there all of them did, and of its own sends one has no room. -/
structure LosingMove (n : Nat) (before : List Message) (m : Message)
    (s : List (Message × OnFailure)) (q : Phase) : Prop where
  move : Move settings (Phase.awaitingInitialize.after settings before) m s q
  le : (Phase.awaitingInitialize.sent settings before).length ≤ n
  lt : n - (Phase.awaitingInitialize.sent settings before).length < s.length

def breakAt (n : Nat) (before : List Message) (s : List (Message × OnFailure)) : Option Break :=
  firstBreak ((s.drop (n - (Phase.awaitingInitialize.sent settings before).length)).map Prod.snd)

theorem isEnded_of_sends (before : List Message) (m : Message)
    (h : (Phase.awaitingInitialize.sent settings before).length <
      (Phase.awaitingInitialize.sent settings (before ++ [m])).length) :
    (Phase.awaitingInitialize.after settings before).isEnded = false := by
  cases hp : (Phase.awaitingInitialize.after settings before).isEnded with
  | false => rfl
  | true =>
      obtain ⟨e, he⟩ := (Phase.isEnded_iff _).1 hp
      rw [Phase.sent_append, he, Phase.sent_ended, List.append_nil] at h
      exact absurd h (Nat.lt_irrefl _)

theorem exists_losingMove (n : Nat) (ms : List Message)
    (h : n < (Phase.awaitingInitialize.sent settings ms).length) :
    ∃ before m rest s q, ms = before ++ m :: rest ∧ LosingMove settings n before m s q := by
  obtain ⟨before, m, rest, rfl, hle, hlt⟩ := exists_sending settings .awaitingInitialize n ms h
  have hrun := isEnded_of_sends settings before m (Nat.lt_of_le_of_lt hle hlt)
  obtain ⟨s, q, hmove⟩ := Phase.exists_move settings _ m hrun
  refine ⟨before, m, rest, s, q, rfl, hmove, hle, ?_⟩
  rw [Phase.sent_append, Phase.sent_move settings hmove, Phase.sent_nil, List.append_nil,
    List.length_append, List.length_map] at hlt
  omega

namespace LosingMove

variable {settings} {n : Nat} {before : List Message} {m : Message}
  {s : List (Message × OnFailure)} {q : Phase} (h : LosingMove settings n before m s q)
  (rest : List Message)

include h

theorem lt_sent : n < (Phase.awaitingInitialize.sent settings (before ++ [m])).length := by
  have hlt := h.lt
  rw [Phase.sent_append, Phase.sent_move settings h.move, Phase.sent_nil, List.append_nil,
    List.length_append, List.length_map]
  omega

/-- The message that gets lost is one of those sent at this point. -/
theorem getElem?_sent :
    (Phase.awaitingInitialize.sent settings (before ++ m :: rest))[n]? =
      (s.map Prod.fst)[n - (Phase.awaitingInitialize.sent settings before).length]? := by
  have hroom : n - (Phase.awaitingInitialize.sent settings before).length <
      (s.map Prod.fst).length := by
    rw [List.length_map]
    exact h.lt
  rw [Phase.sent_append, Phase.sent_move settings h.move, List.getElem?_append_right h.le,
    List.getElem?_append_left hroom]

/-- The session from there on: the room is used up, and the phase is the next one
unless the loss has broken the session off. -/
theorem run_eq :
    let next : State := ⟨q.orBroken (breakAt settings n before s), .ofRoom 0⟩
    (State.run settings ⟨.awaitingInitialize, .ofRoom n⟩ (before ++ m :: rest)).2 =
        (next.run settings rest).2 ∧
      State.taken settings ⟨.awaitingInitialize, .ofRoom n⟩ (before ++ m :: rest) =
        before.length + (next.taken settings rest + 1) := by
  intro next
  have hrun := h.move.isEnded_eq_false
  obtain ⟨hbefore, hcount⟩ := run_ofRoom_of_le settings .awaitingInitialize n before h.le
  rw [Phase.taken_eq_length _ _ _ hrun] at hcount
  have hstep : (State.step settings ⟨Phase.awaitingInitialize.after settings before,
      .ofRoom (n - (Phase.awaitingInitialize.sent settings before).length)⟩ m).2 = next := by
    rw [(step_ofRoom settings _ _ m).2, Reaction.messages, h.move.react_eq.1, h.move.react_eq.2,
      List.length_map, Nat.sub_eq_zero_of_le (Nat.le_of_lt h.lt)]
    rfl
  constructor
  · rw [run_append, hbefore]
    simp only [State.run]
    rw [hstep]
  · rw [taken_append, hcount, hbefore]
    simp only [State.taken, hrun, Bool.false_eq_true, if_false]
    rw [hstep]

/-- A loss that breaks the session off ends it, and later messages stay unread. -/
theorem ending_of_break {b : Break} (hb : breakAt settings n before s = some b) :
    (transcript settings (.ofRoom n) (before ++ m :: rest)).ending =
        (q.orBroken (some b)).disconnect ∧
      (transcript settings (.ofRoom n) (before ++ m :: rest)).unread = rest.length := by
  obtain ⟨hend, htaken⟩ := h.run_eq rest
  rw [hb] at hend htaken
  rw [transcript_ofRoom_ending, transcript_ofRoom_unread, hend, htaken]
  constructor
  · rw [run_of_isEnded settings _ rest rfl]
  · rw [taken_of_isEnded settings _ rest rfl, List.length_append, List.length_cons]
    omega

/-- The only loss that does not break the session off is that of the reply to
`shutdown`. -/
theorem eq_awaitingExit (hb : breakAt settings n before s = none) : q = .awaitingExit := by
  have hlost : (s.map Prod.fst)[n - (Phase.awaitingInitialize.sent settings before).length]? =
      some _ := List.getElem?_eq_getElem (by rw [List.length_map]; exact h.lt)
  have hloss := loss_move settings h.move hlost
  rw [breakAt] at hb
  rw [hb] at hloss
  exact Loss.eq_awaitingExit settings hloss

/-- A loss that is ignored changes nothing, as the session sends no more. -/
theorem ending_of_ignored (hb : breakAt settings n before s = none) :
    (transcript settings (.ofRoom n) (before ++ m :: rest)).ending =
        (transcript settings .sound (before ++ m :: rest)).ending ∧
      (transcript settings (.ofRoom n) (before ++ m :: rest)).unread =
        (transcript settings .sound (before ++ m :: rest)).unread := by
  obtain ⟨hend, htaken⟩ := h.run_eq rest
  have hrun := h.move.isEnded_eq_false
  have hq := h.eq_awaitingExit hb
  rw [hb] at hend htaken
  subst hq
  obtain ⟨hrest, hcount⟩ := run_ofRoom_of_le settings .awaitingExit 0 rest
    (by rw [sent_awaitingExit]; exact Nat.le_refl 0)
  rw [transcript_ofRoom_ending, transcript_ofRoom_unread, hend, htaken,
    transcript_sound_ending, transcript_sound_unread, Phase.after_append,
    Phase.after_move settings h.move, Phase.taken_append settings _ _ _ hrun,
    Phase.taken_cons settings _ _ _ hrun, h.move.react_eq.2]
  exact ⟨congrArg (fun run : List Effect × State => run.2.phase.disconnect) hrest,
    congrArg (fun count => _ - (before.length + (count + 1))) hcount⟩

end LosingMove

theorem faresAfter_of_loss {lost : Message} {q : Phase} {broken : Option Break} {left : Nat}
    {whole cut : Transcript} (h : Loss settings lost q broken)
    (hcrashed : broken = some .crashed →
      cut.ending = .failed .crashed ∧ cut.unread = left)
    (hreported : broken = some .reported →
      cut.ending = .failed .sendFailed ∧ cut.unread = left)
    (hignored : broken = none → cut.ending = whole.ending ∧ cut.unread = whole.unread) :
    FaresAfter lost left whole cut := by
  -- The five kinds of messages differ, so each kind meets one field only.
  cases h with
  | early r =>
      constructor <;> simp [notInitialized, methodNotFound, notInitializedCode,
        methodNotFoundCode, Response.failure, Response.ok, hcrashed rfl]
  | description r =>
      constructor <;> simp [notInitialized, methodNotFound, Response.failure, Response.ok,
        serverDescription, hcrashed rfl]
  | announcement text hlevel htext =>
      constructor <;> simp [hreported rfl]
  | unknown r =>
      constructor <;> simp [notInitialized, methodNotFound, notInitializedCode,
        methodNotFoundCode, Response.failure, Response.ok, hreported rfl]
  | shutdown r =>
      constructor <;> simp [notInitialized, methodNotFound, Response.failure, Response.ok,
        serverDescription, hignored rfl]

/-- The first message that does not get through, where it is sent, and how the
session fares after that. -/
theorem exists_loss (n : Nat) (ms : List Message)
    (h : n < (Phase.awaitingInitialize.sent settings ms).length) :
    ∃ lost before m rest q broken, ms = before ++ m :: rest ∧
      (Phase.awaitingInitialize.sent settings before).length ≤ n ∧
      n < (Phase.awaitingInitialize.sent settings (before ++ [m])).length ∧
      (Phase.awaitingInitialize.sent settings ms)[n]? = some lost ∧
      Loss settings lost q broken ∧
      (∀ b, broken = some b →
        (transcript settings (.ofRoom n) ms).ending = (q.orBroken (some b)).disconnect ∧
          (transcript settings (.ofRoom n) ms).unread = rest.length) ∧
      (broken = none →
        (transcript settings (.ofRoom n) ms).ending =
            (transcript settings .sound ms).ending ∧
          (transcript settings (.ofRoom n) ms).unread =
            (transcript settings .sound ms).unread) := by
  obtain ⟨before, m, rest, s, q, rfl, hlosing⟩ := exists_losingMove settings n ms h
  have hlost : (s.map Prod.fst)[n - (Phase.awaitingInitialize.sent settings before).length]? =
      some _ := List.getElem?_eq_getElem (by rw [List.length_map]; exact hlosing.lt)
  have hloss := loss_move settings hlosing.move hlost
  refine ⟨_, before, m, rest, q, _, rfl, hlosing.le, hlosing.lt_sent,
    (hlosing.getElem?_sent rest).trans hlost, hloss, ?_, ?_⟩
  · intro b hb
    exact hlosing.ending_of_break rest hb
  · intro hb
    exact hlosing.ending_of_ignored rest hb

/-- A client that gets every message that is sent makes no difference. -/
theorem same_of_room (n : Nat) (ms : List Message)
    (h : (Phase.awaitingInitialize.sent settings ms).length ≤ n) :
    (transcript settings (.ofRoom n) ms).ending = (transcript settings .sound ms).ending ∧
      (transcript settings (.ofRoom n) ms).unread =
        (transcript settings .sound ms).unread := by
  obtain ⟨hend, htaken⟩ := run_ofRoom_of_le settings .awaitingInitialize n ms h
  simp only [transcript_ofRoom_ending, transcript_ofRoom_unread, hend, htaken,
    transcript_sound_ending, transcript_sound_unread, and_self]

def Ending.IsLoss : Ending → Prop
  | .failed .sendFailed | .failed .crashed => True
  | _ => False

theorem not_isLoss_move {p : Phase} {m : Message} {s : List (Message × OnFailure)} {e : Ending}
    (h : Move settings p m s (.ended e)) : ¬ e.IsLoss := by
  cases h <;> exact not_false

theorem not_isLoss_disconnect {p : Phase} (h : p.isEnded = false) : ¬ p.disconnect.IsLoss := by
  cases p with
  | ended e => cases h
  | _ => exact not_false

/-- A session whose client receives everything loses nothing. -/
theorem not_isLoss_transcript_sound (ms : List Message) :
    ¬ (transcript settings .sound ms).ending.IsLoss := by
  rcases transcript_runs_or_ends settings ms with
    ⟨_, hrun⟩ | ⟨before, m, rest, e, rfl, _, hmove, hend, _, _⟩
  · rw [transcript_sound_ending]
    exact not_isLoss_disconnect hrun
  · rw [hend]
    exact not_isLoss_move settings hmove

theorem transcript_sound_ending_ne_sendFailed (ms : List Message) :
    (transcript settings .sound ms).ending ≠ .failed .sendFailed := by
  intro h
  have hloss := not_isLoss_transcript_sound settings ms
  rw [h] at hloss
  exact hloss trivial

/-- A session whose client receives `n` messages and then no more, beside the one
whose client receives everything. It delivers the first `n` messages of that one
and, if there are no more, ends like it. Otherwise the first message that gets lost
is of one of a few kinds, and the session fares as that kind demands. If a failed
send is the outcome, that message was an announcement that the level admits or the
reply to an unknown method. -/
theorem transcript_ofRoom (n : Nat) (ms : List Message) :
    let whole := transcript settings .sound ms
    let cut := transcript settings (.ofRoom n) ms
    cut.sent = whole.sent.take n ∧
      (whole.sent.length ≤ n → cut.ending = whole.ending ∧ cut.unread = whole.unread) ∧
      (n < whole.sent.length →
        ∃ lost before m rest, whole.sent[n]? = some lost ∧ ms = before ++ m :: rest ∧
          (transcript settings .sound before).sent.length ≤ n ∧
          n < (transcript settings .sound (before ++ [m])).sent.length ∧
          (∃ q broken, Loss settings lost q broken) ∧
          FaresAfter lost rest.length whole cut) ∧
      (cut.ending = .failed .sendFailed →
        ∃ lost, whole.sent[n]? = some lost ∧
          ((settings.messageLevel.admits .info = true ∧
              ∃ text ∈ announcements settings, lost = .notification (logMessage .info text)) ∨
            ∃ r, lost = .response (methodNotFound r))) := by
  intro whole cut
  have hwhole : whole.sent = Phase.awaitingInitialize.sent settings ms :=
    transcript_sound_sent settings ms
  have hsame : whole.sent.length ≤ n →
      cut.ending = whole.ending ∧ cut.unread = whole.unread := by
    intro hle
    rw [hwhole] at hle
    exact same_of_room settings n ms hle
  refine ⟨?_, hsame, ?_, ?_⟩
  · rw [hwhole]
    exact transcript_ofRoom_sent settings n ms
  · intro hlt
    rw [hwhole] at hlt ⊢
    obtain ⟨lost, before, m, rest, q, broken, hms, hle, hnext, hlost, hloss, hbroken, hignored⟩ :=
      exists_loss settings n ms hlt
    refine ⟨lost, before, m, rest, hlost, hms, ?_, ?_, ⟨q, broken, hloss⟩, ?_⟩
    · rwa [transcript_sound_sent]
    · rwa [transcript_sound_sent]
    · exact faresAfter_of_loss settings hloss (hbroken .crashed) (hbroken .reported) hignored
  · intro hfailed
    rcases Nat.lt_or_ge n whole.sent.length with hlt | hge
    · rw [hwhole] at hlt ⊢
      obtain ⟨lost, before, m, rest, q, broken, _, _, _, hlost, hloss, hbroken, hignored⟩ :=
        exists_loss settings n ms hlt
      refine ⟨lost, hlost, ?_⟩
      cases hloss with
      | early r => cases (hbroken .crashed rfl).1.symm.trans hfailed
      | description r => cases (hbroken .crashed rfl).1.symm.trans hfailed
      | announcement text hlevel htext => exact .inl ⟨hlevel, text, htext, rfl⟩
      | unknown r => exact .inr ⟨r, rfl⟩
      | shutdown r =>
          exact absurd ((hignored rfl).1.symm.trans hfailed)
            (transcript_sound_ending_ne_sendFailed settings ms)
    · exact absurd ((hsame hge).1.symm.trans hfailed)
        (transcript_sound_ending_ne_sendFailed settings ms)

/-! ## Clients that hang up -/

/-- A client that stops receiving once some of its messages were dealt with is one
that receives as many messages as are sent until then. -/
theorem transcriptUntilLost_eq (count : Nat) (ms : List Message) :
    transcriptUntilLost settings count ms =
      transcript settings (.ofRoom (transcript settings .sound (ms.take count)).sent.length)
        ms := by
  rw [transcript_sound_sent]
  have hbefore := (run_sound settings .awaitingInitialize (ms.take count)).2
  have htaken := taken_sound settings .awaitingInitialize (ms.take count)
  obtain ⟨hroom, hcount⟩ := run_ofRoom_of_le settings .awaitingInitialize
    (Phase.awaitingInitialize.sent settings (ms.take count)).length (ms.take count) (Nat.le_refl _)
  rw [Nat.sub_self] at hroom
  generalize (Phase.awaitingInitialize.sent settings (ms.take count)).length = n at hroom hcount
  have hrun := run_append settings ⟨.awaitingInitialize, .ofRoom n⟩ (ms.take count) (ms.drop count)
  have hall := taken_append settings ⟨.awaitingInitialize, .ofRoom n⟩ (ms.take count)
    (ms.drop count)
  rw [List.take_append_drop, hroom] at hrun hall
  rw [hcount] at hall
  simp only [transcriptUntilLost, transcript, start_eq, hrun, hbefore, State.hangUp, htaken, hall,
    Link.lost, Nat.sub_sub]
  rfl

end LspAdapter.Session
