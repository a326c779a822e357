import LspAdapter.Session.Phase
/-!
# Moves of a session

What one message can bring about, the records aside: which messages are sent,
what it means if one of them cannot be sent, and what the session waits for
next.  There is one kind of move for each way a message can be dealt with, and
`move_react` says that a reaction is always one of them.  Proofs about whole
sessions take a move apart and never look into a reaction.
-/

namespace LspAdapter.Session

def Action.send? : Action → Option (Message × OnFailure)
  | .record _ => none
  | .send m f => some (m, f)

def Reaction.sends (r : Reaction) : List (Message × OnFailure) :=
  r.actions.filterMap Action.send?

def Reaction.messages (r : Reaction) : List Message :=
  r.sends.map Prod.fst

def announced (settings : Settings) : List Message :=
  if settings.messageLevel.admits .info then
    (announcements settings).map fun text => .notification (logMessage .info text)
  else []

/-- The ways in which a session that has not ended deals with a message. -/
inductive Move (settings : Settings) :
    Phase → Message → List (Message × OnFailure) → Phase → Prop
  | earlyRequest (r : Request) : r.method ≠ "initialize" →
      Move settings .awaitingInitialize (.request r)
        [(.response (notInitialized r), .crash)] .awaitingInitialize
  | opened (r : Request) (client : Option Handshake.Client) : r.method = "initialize" →
      Handshake.readParams r.params = .ok client →
      Move settings .awaitingInitialize (.request r)
        [(.response (.ok r.id serverDescription), .crash)] .awaitingInitialized
  | badParams (r : Request) (f : Handshake.Mismatch) : r.method = "initialize" →
      Handshake.readParams r.params = .error f →
      Move settings .awaitingInitialize (.request r) [] (.ended (.failed (.badParams f)))
  | earlyNotification (n : Notification) : n.method ≠ "exit" →
      Move settings .awaitingInitialize (.notification n) [] .awaitingInitialize
  | earlyExit (n : Notification) : n.method = "exit" →
      Move settings .awaitingInitialize (.notification n) []
        (.ended (.failed (.breach (.notInitialize (.notification n)))))
  | earlyResponse (r : Response) :
      Move settings .awaitingInitialize (.response r) []
        (.ended (.failed (.breach (.notInitialize (.response r)))))
  | initialized (n : Notification) : n.method = "initialized" →
      Move settings .awaitingInitialized (.notification n)
        ((announced settings).map (·, .report)) .serving
  | notInitialized (m : Message) : m.isInitialized = false →
      Move settings .awaitingInitialized m [] (.ended (.failed (.breach (.notInitialized m))))
  | shutdown (r : Request) : r.method = "shutdown" →
      Move settings .serving (.request r) [(.response (.ok r.id .null), .ignore)] .awaitingExit
  | request (r : Request) : r.method ≠ "shutdown" →
      Move settings .serving (.request r) [(.response (methodNotFound r), .report)] .serving
  | response (r : Response) : Move settings .serving (.response r) [] .serving
  | notification (n : Notification) : n.method ≠ "exit" →
      Move settings .serving (.notification n) [] .serving
  | exit (n : Notification) : n.method = "exit" →
      Move settings .serving (.notification n) [] (.ended .finished)
  | farewell (n : Notification) : n.method = "exit" →
      Move settings .awaitingExit (.notification n) [] (.ended .finished)
  | notExit (m : Message) : m.isExit = false →
      Move settings .awaitingExit m [] (.ended (.failed (.breach (.notExit m))))

variable (settings : Settings)

theorem filterMap_send?_logTo (severity : LogLevel) (text : String) :
    (logTo settings severity text).filterMap Action.send? =
      (settings.messageLevel.forward? severity text).toList.map
        fun n => (.notification n, .report) := by
  unfold logTo
  cases settings.messageLevel.forward? severity text <;> rfl

theorem sends_announcements :
    ((announcements settings).flatMap (logTo settings .info)).filterMap Action.send? =
      (announced settings).map (·, OnFailure.report) := by
  rw [List.filterMap_flatMap]
  simp only [filterMap_send?_logTo, announcements, announced, LogLevel.forward?]
  cases settings.messageLevel.admits .info <;> rfl

/-- A session that has not ended deals with every message by some move. -/
theorem move_react (p : Phase) (m : Message) (h : p.isEnded = false) :
    Move settings p m (p.react settings m).sends (p.react settings m).next := by
  cases p with
  | awaitingInitialize =>
      cases m with
      | request r =>
          by_cases hm : r.method = "initialize"
          · simp only [Phase.react, if_pos hm, initializeReaction]
            cases hp : Handshake.readParams r.params with
            | error f => exact .badParams r f hm hp
            | ok client =>
                cases client with
                | none => exact .opened r none hm hp
                | some c => exact .opened r (some c) hm hp
          · simp only [Phase.react, if_neg hm]
            exact .earlyRequest r hm
      | response r => exact .earlyResponse r
      | notification n =>
          by_cases hm : n.method = "exit"
          · simp only [Phase.react, Message.isExit, hm, decide_true, if_true]
            exact .earlyExit n hm
          · simp only [Phase.react, Message.isExit, hm, decide_false, Bool.false_eq_true, if_false]
            exact .earlyNotification n hm
  | awaitingInitialized =>
      cases hm : m.isInitialized with
      | true =>
          cases m with
          | request r => cases hm
          | response r => cases hm
          | notification n =>
              have hmethod : n.method = "initialized" := by
                simpa [Message.isInitialized] using hm
              have hsends := sends_announcements settings
              simp only [Phase.react, hm, if_true, Reaction.sends, List.filterMap_append, hsends]
              simp only [note, List.filterMap_cons, Action.send?, List.filterMap_nil,
                List.append_nil]
              exact .initialized n hmethod
      | false =>
          simp only [Phase.react, hm, Bool.false_eq_true, if_false]
          exact .notInitialized m hm
  | serving =>
      cases m with
      | request r =>
          by_cases hm : r.method = "shutdown"
          · simp only [Phase.react, serve, if_pos hm]
            exact .shutdown r hm
          · simp only [Phase.react, serve, if_neg hm]
            exact .request r hm
      | response r => exact .response r
      | notification n =>
          by_cases hm : n.method = "exit"
          · simp only [Phase.react, Message.isExit, hm, decide_true, if_true]
            exact .exit n hm
          · simp only [Phase.react, Message.isExit, hm, decide_false, Bool.false_eq_true, if_false]
            exact .notification n hm
  | awaitingExit =>
      cases hm : m.isExit with
      | true =>
          cases m with
          | request r => cases hm
          | response r => cases hm
          | notification n =>
              have hmethod : n.method = "exit" := by simpa [Message.isExit] using hm
              simp only [Phase.react, hm, if_true]
              exact .farewell n hmethod
      | false =>
          simp only [Phase.react, hm, Bool.false_eq_true, if_false]
          exact .notExit m hm
  | ended e => cases h

namespace Move

variable {settings} {p q q' : Phase} {m : Message} {s s' : List (Message × OnFailure)}

theorem isEnded_eq_false (h : Move settings p m s q) : p.isEnded = false := by
  cases h <;> rfl

theorem unique (h : Move settings p m s q) (h' : Move settings p m s' q') : s = s' ∧ q = q' := by
  cases h <;> cases h' <;> simp_all [Message.isExit, Message.isInitialized]

/-- The message that ends a session is not answered. -/
theorem sends_eq_nil {e : Ending} (h : Move settings p m s (.ended e)) : s = [] := by
  cases h <;> rfl

/-- A session that a message ends well is ended by the notification `exit`. -/
theorem isExit_of_finished (h : Move settings p m s (.ended .finished)) : m.isExit = true := by
  cases h with
  | exit n hn => simp [Message.isExit, hn]
  | farewell n hn => simp [Message.isExit, hn]

/-- No message is answered by more than the two announcements. -/
theorem length_le (h : Move settings p m s q) : s.length ≤ 2 := by
  cases h with
  | initialized n hn =>
      unfold announced
      split <;> simp [announcements]
  | _ => simp

theorem react_eq (h : Move settings p m s q) :
    (p.react settings m).sends = s ∧ (p.react settings m).next = q :=
  unique (move_react settings p m h.isEnded_eq_false) h

end Move

end LspAdapter.Session
