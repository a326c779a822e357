import LspAdapter.Proofs.Session.Announcement
/-!
# Messages that leave no trace

While a session waits for `initialize` it passes over every notification but `exit`, and
while it serves it passes over the responses, too.  Such messages can be put in at that
point or taken out there, and the client receives the same and the session ends alike,
whatever follows.  Of no other message is that true: the two phases that wait for one
message pass over none, and every message that is heeded shows in the replies or in the
end.

* `ignored_append`, `ignores_of_unseen` — what is passed over, and nothing else, is unseen;
* `run_heeded` — a run is the one over what it heeds alone;
* `heeded_completed` — what is heeded of a session that completes the handshake.
-/

namespace LspAdapter

def Message.isRequest : Message → Bool
  | .request _ => true
  | _ => false

instance : DecidablePred Message.IsOrdinary
  | .request r => inferInstanceAs (Decidable (r.method ≠ "shutdown"))
  | .notification n => inferInstanceAs (Decidable (n.method ≠ "exit"))
  | .response _ => inferInstanceAs (Decidable True)

namespace Session

def Phase.ignores : Phase → Message → Bool
  | .awaitingInitialize, .notification n => n.method ≠ "exit"
  | .serving, .notification n => n.method ≠ "exit"
  | .serving, .response _ => true
  | _, _ => false

variable (settings : Settings)

def Phase.heeded (p : Phase) : List Message → List Message
  | [] => []
  | m :: ms =>
    if p.ignores m then p.heeded ms else m :: (p.react settings m).next.heeded ms

/-- Whether two sessions over a sound link send the same messages and end alike. -/
def LooksAlike (ms ms' : List Message) : Prop :=
  (transcript settings .sound ms).sent = (transcript settings .sound ms').sent ∧
    (transcript settings .sound ms).ending = (transcript settings .sound ms').ending

/-! ## One message -/

theorem move_of_ignores {p : Phase} {m : Message} (h : p.ignores m = true) :
    Move settings p m [] p := by
  cases p with
  | awaitingInitialize =>
      cases m with
      | notification n => exact .earlyNotification n (of_decide_eq_true h)
      | request | response => cases h
  | serving =>
      cases m with
      | notification n => exact .notification n (of_decide_eq_true h)
      | response r => exact .response r
      | request => cases h
  | awaitingInitialized | awaitingExit | ended => cases h

/-- A message that can be put in unseen, whatever follows, is one that is passed over. -/
theorem ignores_of_unseen {p : Phase} {m : Message} (hp : p.isEnded = false)
    (h : ∀ rest, p.sent settings (m :: rest) = p.sent settings rest ∧
      (p.after settings (m :: rest)).disconnect = (p.after settings rest).disconnect) :
    p.ignores m = true := by
  obtain ⟨s, q, hmove⟩ := Phase.exists_move settings p m hp
  -- Mostly it is enough that the client disconnects right behind the message.
  obtain ⟨hsent, hend⟩ := h []
  rw [Phase.sent_move settings hmove, Phase.sent_nil, Phase.sent_nil, List.append_nil,
    List.map_eq_nil_iff] at hsent
  rw [Phase.after_move settings hmove, Phase.after_nil, Phase.after_nil] at hend
  cases hmove with
  | earlyNotification n hn => exact decide_eq_true hn
  | notification n hn => exact decide_eq_true hn
  | response r => rfl
  | earlyRequest | opened | shutdown | request => cases hsent
  | badParams | earlyExit | earlyResponse | initialized | notInitialized | farewell | notExit =>
      cases hend
  | exit n hn =>
      -- A disconnection ends the session well, too, but a request would be answered.
      let r : Request := ⟨.number 0, "", .null⟩
      have hr : r.method ≠ "shutdown" := by decide
      have hanswered := (h [.request r]).1
      rw [Phase.sent_move settings (.exit n hn), Phase.sent_ended,
        Phase.sent_move settings (.request r hr)] at hanswered
      cases hanswered

/-! ## Many messages -/

theorem ignored_append {p : Phase} (ignored rest : List Message)
    (h : ∀ m ∈ ignored, p.ignores m = true) :
    p.sent settings (ignored ++ rest) = p.sent settings rest ∧
      p.after settings (ignored ++ rest) = p.after settings rest := by
  induction ignored with
  | nil => exact ⟨rfl, rfl⟩
  | cons m ignored ih =>
      obtain ⟨hm, hignored⟩ := List.forall_mem_cons.1 h
      obtain ⟨hsent, hafter⟩ := ih hignored
      have hmove := move_of_ignores settings hm
      rw [List.cons_append, Phase.sent_move settings hmove, Phase.after_move settings hmove,
        hsent, hafter]
      exact ⟨rfl, rfl⟩

theorem heeded_of_ignores {p : Phase} {m : Message} (h : p.ignores m = true)
    (ms : List Message) : p.heeded settings (m :: ms) = p.heeded settings ms := by
  rw [Phase.heeded, if_pos h]

theorem heeded_of_not_ignores {p : Phase} {m : Message} (h : p.ignores m = false)
    (ms : List Message) :
    p.heeded settings (m :: ms) = m :: (p.react settings m).next.heeded settings ms := by
  rw [Phase.heeded, h, if_neg Bool.false_ne_true]

/-- What a run passes over makes no difference to it. -/
theorem run_heeded (p : Phase) (ms : List Message) :
    p.sent settings (p.heeded settings ms) = p.sent settings ms ∧
      p.after settings (p.heeded settings ms) = p.after settings ms := by
  induction ms generalizing p with
  | nil => exact ⟨rfl, rfl⟩
  | cons m ms ih =>
      cases hm : p.ignores m with
      | true =>
          obtain ⟨hsent, hafter⟩ := ih p
          have hmove := move_of_ignores settings hm
          rw [heeded_of_ignores settings hm, hsent, hafter, Phase.sent_move settings hmove,
            Phase.after_move settings hmove]
          exact ⟨rfl, rfl⟩
      | false =>
          obtain ⟨hsent, hafter⟩ := ih (p.react settings m).next
          rw [heeded_of_not_ignores settings hm, Phase.sent_cons, Phase.after_cons,
            Phase.sent_cons, Phase.after_cons, hsent, hafter]
          exact ⟨rfl, rfl⟩

/-! ## What is heeded -/

theorem heeded_move {p q : Phase} {m : Message} {s : List (Message × OnFailure)}
    (hmove : Move settings p m s q) (h : p.ignores m = false) (ms : List Message) :
    p.heeded settings (m :: ms) = m :: q.heeded settings ms := by
  rw [heeded_of_not_ignores settings h, hmove.react_eq.2]

theorem heeded_ended (e : Ending) (ms : List Message) :
    (Phase.ended e).heeded settings ms = ms := by
  induction ms with
  | nil => rfl
  | cons m ms ih => exact congrArg (m :: ·) ih

theorem heeded_awaitingExit (ms : List Message) :
    Phase.awaitingExit.heeded settings ms = ms := by
  cases ms with
  | nil => rfl
  | cons m ms =>
      obtain ⟨s, q, hmove⟩ := Phase.exists_move settings .awaitingExit m rfl
      rw [heeded_move settings hmove rfl]
      cases hmove with
      | farewell | notExit => rw [heeded_ended]

/-- Of early messages the requests are heeded. -/
theorem heeded_early_append (early rest : List Message) (h : ∀ m ∈ early, m.IsEarly) :
    Phase.awaitingInitialize.heeded settings (early ++ rest) =
      early.filter Message.isRequest ++ Phase.awaitingInitialize.heeded settings rest := by
  induction early with
  | nil => rfl
  | cons m early ih =>
      obtain ⟨hm, hearly⟩ := List.forall_mem_cons.1 h
      rw [List.cons_append]
      cases m with
      | request r =>
          rw [heeded_move settings (.earlyRequest r hm) rfl, ih hearly]
          rfl
      | response r => cases hm
      | notification n =>
          have hignored : Phase.awaitingInitialize.ignores (.notification n) = true :=
            decide_eq_true hm
          rw [heeded_of_ignores settings hignored, ih hearly]
          rfl

/-- While a session serves, requests are heeded, and so is all that follows `shutdown` or
`exit`. -/
theorem heeded_serving (ms : List Message) :
    Phase.serving.heeded settings ms =
      (ms.takeWhile (·.IsOrdinary)).filter Message.isRequest ++ ms.dropWhile (·.IsOrdinary) := by
  induction ms with
  | nil => rfl
  | cons m ms ih =>
      rw [List.takeWhile_cons, List.dropWhile_cons]
      obtain ⟨s, q, hmove⟩ := Phase.exists_move settings .serving m rfl
      cases hmove with
      | request r hr =>
          have hordinary : decide (Message.request r).IsOrdinary = true := decide_eq_true hr
          rw [heeded_move settings (.request r hr) rfl, ih, if_pos hordinary, if_pos hordinary]
          rfl
      | response r =>
          rw [heeded_of_ignores settings rfl, ih]
          rfl
      | notification n hn =>
          have hignored : Phase.serving.ignores (.notification n) = true := decide_eq_true hn
          have hordinary : decide (Message.notification n).IsOrdinary = true := decide_eq_true hn
          rw [heeded_of_ignores settings hignored, ih, if_pos hordinary, if_pos hordinary]
          rfl
      | shutdown r hr =>
          have hleave : decide (Message.request r).IsOrdinary = false :=
            decide_eq_false (not_not_intro hr)
          rw [heeded_move settings (.shutdown r hr) rfl, heeded_awaitingExit, hleave]
          rfl
      | exit n hn =>
          have hheeded : Phase.serving.ignores (.notification n) = false :=
            decide_eq_false (not_not_intro hn)
          have hleave : decide (Message.notification n).IsOrdinary = false :=
            decide_eq_false (not_not_intro hn)
          rw [heeded_move settings (.exit n hn) hheeded, heeded_ended, hleave]
          rfl

/-- Of a session that completes the handshake all is heeded but what comes before
`initialize` or while the session serves and is no request. -/
theorem heeded_completed {ms early later : List Message} {opening : Request}
    (h : CompletesHandshake ms early opening later) :
    ∃ confirmation : Notification,
      ms = early ++ .request opening :: .notification confirmation :: later ∧
      Phase.awaitingInitialize.heeded settings ms =
        early.filter Message.isRequest ++ .request opening :: .notification confirmation ::
          ((later.takeWhile (·.IsOrdinary)).filter Message.isRequest ++
            later.dropWhile (·.IsOrdinary)) := by
  obtain ⟨client, haccepted⟩ := h.accepted
  obtain ⟨n, hn, hms⟩ := h.confirmed
  refine ⟨n, hms, ?_⟩
  rw [hms, heeded_early_append settings early _ h.isEarly,
    heeded_move settings (.opened opening client h.method haccepted) rfl,
    heeded_move settings (.initialized n hn) rfl, heeded_serving]

/-! ## Whole sessions -/

theorem looksAlike_append_iff (before as bs : List Message) :
    let p := Phase.awaitingInitialize.after settings before
    LooksAlike settings (before ++ as) (before ++ bs) ↔
      p.sent settings as = p.sent settings bs ∧
        (p.after settings as).disconnect = (p.after settings bs).disconnect := by
  intro p
  rw [LooksAlike, transcript_sound_sent, transcript_sound_sent, transcript_sound_ending,
    transcript_sound_ending, Phase.sent_append, Phase.sent_append, Phase.after_append,
    Phase.after_append, List.append_right_inj]

/-- Messages that a session passes over leave no trace where it does so, and those it does
not pass over do, unless it has ended. All of them can be taken out of a session; if it
completes the handshake, these are the messages before `initialize` and those before
`shutdown` or `exit` that are no requests. -/
theorem ignored_unseen :
    (∀ before : List Message,
      let p := ((State.start .sound).2.run settings before).2.phase
      (∀ ignored rest, (∀ m ∈ ignored, p.ignores m = true) →
        LooksAlike settings (before ++ (ignored ++ rest)) (before ++ rest)) ∧
      (p.isEnded = false → ∀ m,
        (∀ rest, LooksAlike settings (before ++ m :: rest) (before ++ rest)) →
          p.ignores m = true)) ∧
    (∀ ms, LooksAlike settings (Phase.awaitingInitialize.heeded settings ms) ms) ∧
    ∀ ms early opening later, CompletesHandshake ms early opening later →
      ∃ confirmation : Notification,
        ms = early ++ .request opening :: .notification confirmation :: later ∧
        Phase.awaitingInitialize.heeded settings ms =
          early.filter Message.isRequest ++ .request opening :: .notification confirmation ::
            ((later.takeWhile (·.IsOrdinary)).filter Message.isRequest ++
              later.dropWhile (·.IsOrdinary)) := by
  refine ⟨fun before => ?_, fun ms => ?_, fun ms early opening later => heeded_completed settings⟩
  · have hphase : ((State.start .sound).2.run settings before).2.phase =
        Phase.awaitingInitialize.after settings before := by
      rw [(start_eq .sound).2, (run_sound settings _ before).2]
    rw [hphase]
    refine ⟨fun ignored rest hignored => ?_, fun hrun m hunseen => ?_⟩
    · obtain ⟨hsent, hafter⟩ := ignored_append settings ignored rest hignored
      exact (looksAlike_append_iff settings before _ _).2
        ⟨hsent, congrArg Phase.disconnect hafter⟩
    · apply ignores_of_unseen settings hrun
      intro rest
      exact (looksAlike_append_iff settings before (m :: rest) rest).1 (hunseen rest)
  · obtain ⟨hsent, hafter⟩ := run_heeded settings .awaitingInitialize ms
    rw [LooksAlike, transcript_sound_sent, transcript_sound_sent, transcript_sound_ending,
      transcript_sound_ending, hsent, hafter]
    exact ⟨rfl, rfl⟩

end Session

end LspAdapter
