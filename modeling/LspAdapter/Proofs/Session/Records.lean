import LspAdapter.Proofs.Session.Ignored
/-!
# What a session records

The records of a session follow from its messages; its settings have no part in them.
While it serves, each message leaves one record, in the order of arrival, and so does the
one with which it stops to serve.  The exception is a `shutdown` that `exit` does not
follow.

* `noted_react` — what is recorded about a message in each phase;
* `records_serving` — the records of a session that serves;
* `transcript_sound_records` — the records of a whole session.
-/

namespace LspAdapter

instance : DecidablePred Message.IsEarly
  | .request r => inferInstanceAs (Decidable (r.method ≠ "initialize"))
  | .notification n => inferInstanceAs (Decidable (n.method ≠ "exit"))
  | .response _ => inferInstanceAs (Decidable False)

namespace Session

open Journal (Record)

/-! ## The records of messages -/

def clientRecords (client : Option Handshake.Client) : List Record :=
  client.toList.map fun c => ⟨.info, .handshake, "client: " ++ c.name ++ " " ++ c.version.getD ""⟩

def idText : RequestId → String
  | .number n => "RequestId(I32(" ++ toString n.toInt ++ "))"
  | .text s => "RequestId(String(" ++ Text.Escaping.quotation.quoted s ++ "))"

def ordinaryRecord : Message → Record
  | .request r =>
    ⟨.debug, .connection, "unhandled request " ++ r.method ++ " (" ++ idText r.id ++ ")"⟩
  | .response r => ⟨.debug, .connection, "ignoring response " ++ idText r.id⟩
  | .notification n => ⟨.debug, .connection, "ignoring notification " ++ n.method⟩

/-- The record about messages of which the first makes a session stop to serve: `exit`,
or `shutdown` as soon as `exit` follows. -/
def partingRecords : List Message → List Record
  | .notification _ :: _ => [⟨.warn, .connection, "exit without shutdown"⟩]
  | .request _ :: m :: _ => if m.isExit then [⟨.info, .connection, "shutdown"⟩] else []
  | _ => []

def servingRecords (ms : List Message) : List Record :=
  (ms.takeWhile (·.IsOrdinary)).map ordinaryRecord ++ partingRecords (ms.dropWhile (·.IsOrdinary))

def confirmedRecords : List Message → List Record
  | m :: ms =>
    if m.isInitialized then ⟨.info, .connection, "starting lsp"⟩ :: servingRecords ms else []
  | [] => []

def openedRecords : List Message → List Record
  | .request r :: ms =>
    match Handshake.readParams r.params with
    | .ok client => clientRecords client ++ confirmedRecords ms
    | .error _ => []
  | _ => []

def course (ms : List Message) : List Record :=
  ⟨.info, .connection, "initialize..."⟩ :: openedRecords (ms.dropWhile (·.IsEarly))

def Phase.noted : Phase → Message → List Record
  | .awaitingInitialize, .request r =>
    if r.method = "initialize" then
      match Handshake.readParams r.params with
      | .ok client => clientRecords client
      | .error _ => []
    else []
  | .awaitingInitialized, m =>
    if m.isInitialized then [⟨.info, .connection, "starting lsp"⟩] else []
  | .serving, .request r => if r.method = "shutdown" then [] else [ordinaryRecord (.request r)]
  | .serving, .response r => [ordinaryRecord (.response r)]
  | .serving, .notification n =>
    if n.method = "exit" then [⟨.warn, .connection, "exit without shutdown"⟩]
    else [ordinaryRecord (.notification n)]
  | .awaitingExit, m => if m.isExit then [⟨.info, .connection, "shutdown"⟩] else []
  | _, _ => []

/-! ## One message -/

def Action.record? : Action → Option Record
  | .record r => some r
  | .send _ _ => none

def Reaction.records (r : Reaction) : List Record :=
  r.actions.filterMap Action.record?

variable (settings : Settings)

theorem outline_eq_idText (id : RequestId) : id.outline = idText id := by
  have hclose : "))" = ")" ++ ")" := rfl
  cases id with
  | number n =>
      have hopen : "RequestId(I32(" = "RequestId" ++ "(" ++ ("I32" ++ "(") := rfl
      unfold RequestId.outline idText
      simp only [Diagnostic.tagged, hopen, hclose, String.append_assoc]
  | text s =>
      have hopen : "RequestId(String(" = "RequestId" ++ "(" ++ ("String" ++ "(") := rfl
      unfold RequestId.outline idText
      simp only [Diagnostic.tagged, Diagnostic.quoted, hopen, hclose, String.append_assoc]

theorem filterMap_record?_logTo (severity : LogLevel) (text : String) :
    (logTo settings severity text).filterMap Action.record? = [] := by
  unfold logTo
  cases settings.messageLevel.forward? severity text <;> rfl

theorem filterMap_record?_clients (client : Option Handshake.Client) :
    (client.toList.map clientRecord).filterMap Action.record? = clientRecords client := by
  cases client <;> rfl

/-- What is recorded about a message depends on the phase alone. -/
theorem noted_react (p : Phase) (m : Message) : (p.react settings m).records = p.noted m := by
  cases p with
  | awaitingInitialize =>
      cases m with
      | request r =>
          by_cases hr : r.method = "initialize"
          · simp only [Phase.react, Phase.noted, if_pos hr, initializeReaction]
            cases Handshake.readParams r.params with
            | error f => rfl
            | ok client =>
                rw [Reaction.records, List.filterMap_append, filterMap_record?_clients]
                exact List.append_nil _
          · simp only [Phase.react, Phase.noted, if_neg hr]
            rfl
      | response r => rfl
      | notification n =>
          simp only [Phase.react, Phase.noted]
          split <;> rfl
  | awaitingInitialized =>
      simp only [Phase.react, Phase.noted]
      cases m.isInitialized with
      | true =>
          rw [if_pos rfl, if_pos rfl, Reaction.records, List.filterMap_append,
            List.filterMap_flatMap]
          simp only [filterMap_record?_logTo, announcements]
          rfl
      | false => rfl
  | serving =>
      cases m with
      | request r =>
          simp only [Phase.react, Phase.noted, serve, outline_eq_idText]
          split <;> rfl
      | response r =>
          simp only [Phase.react, outline_eq_idText]
          rfl
      | notification n =>
          simp only [Phase.react, Phase.noted, Message.isExit, decide_eq_true_eq]
          split <;> rfl
  | awaitingExit =>
      simp only [Phase.react, Phase.noted]
      split <;> rfl
  | ended e => rfl

/-! ## Runs -/

def Phase.records (p : Phase) : List Message → List Record
  | [] => []
  | m :: ms => p.noted m ++ (p.react settings m).next.records ms

theorem records_move {p q : Phase} {m : Message} {s : List (Message × OnFailure)}
    (h : Move settings p m s q) (ms : List Message) :
    p.records settings (m :: ms) = p.noted m ++ q.records settings ms := by
  rw [Phase.records, h.react_eq.2]

theorem records_ended (e : Ending) (ms : List Message) :
    (Phase.ended e).records settings ms = [] := by
  induction ms with
  | nil => rfl
  | cons m ms ih => exact ih

theorem perform_sound_records (as : List Action) :
    (perform .sound as).1.records = as.filterMap Action.record? := by
  induction as with
  | nil => rfl
  | cons a as ih =>
      cases a with
      | record r =>
          rw [List.filterMap_cons, ← ih]
          rfl
      | send m f => exact ih

theorem step_sound_records (p : Phase) (m : Message) :
    (State.step settings ⟨p, .sound⟩ m).1.records = p.noted m := by
  obtain ⟨-, hend⟩ := perform_sound (p.react settings m).actions
  rw [Prod.ext_iff] at hend
  obtain ⟨hlink, hbroken⟩ := hend
  unfold State.step State.carryOut
  simp only [hbroken, perform_sound_records]
  exact noted_react settings p m

theorem run_sound_records (p : Phase) (ms : List Message) :
    (State.run settings ⟨p, .sound⟩ ms).1.flatMap (·.records) = p.records settings ms := by
  induction ms generalizing p with
  | nil => rfl
  | cons m ms ih =>
      simp only [State.run, List.flatMap_cons, step_sound_records, (step_sound settings p m).2, ih,
        Phase.records]

/-! ## The phases of a run -/

theorem records_awaitingExit (r : Request) (ms : List Message) :
    Phase.awaitingExit.records settings ms = partingRecords (.request r :: ms) := by
  cases ms with
  | nil => rfl
  | cons m ms =>
      obtain ⟨s, q, hmove⟩ := Phase.exists_move settings .awaitingExit m rfl
      rw [records_move settings hmove]
      cases hmove with
      | farewell | notExit =>
          rw [records_ended, List.append_nil]
          rfl

/-- A message leaves a record of its own if the session serves on, and what follows it is
recorded as if it had not been there. -/
theorem servingRecords_cons (m : Message) (h : m.IsOrdinary) (ms : List Message) :
    servingRecords (m :: ms) = ordinaryRecord m :: servingRecords ms := by
  have hm : decide m.IsOrdinary = true := decide_eq_true h
  rw [servingRecords, List.takeWhile_cons, if_pos hm, List.dropWhile_cons, if_pos hm,
    List.map_cons, List.cons_append, servingRecords]

theorem servingRecords_of_not_ordinary (m : Message) (h : ¬ m.IsOrdinary) (ms : List Message) :
    servingRecords (m :: ms) = partingRecords (m :: ms) := by
  have hm : decide m.IsOrdinary = false := decide_eq_false h
  rw [servingRecords, List.takeWhile_cons, hm, List.dropWhile_cons, hm]
  rfl

theorem records_serving (ms : List Message) :
    Phase.serving.records settings ms = servingRecords ms := by
  induction ms with
  | nil => rfl
  | cons m ms ih =>
      obtain ⟨s, q, hmove⟩ := Phase.exists_move settings .serving m rfl
      rw [records_move settings hmove]
      cases hmove with
      | request r hr =>
          rw [ih, servingRecords_cons (.request r) hr, Phase.noted, if_neg hr]
          rfl
      | response r =>
          rw [ih, servingRecords_cons (.response r) trivial]
          rfl
      | notification n hn =>
          rw [ih, servingRecords_cons (.notification n) hn, Phase.noted, if_neg hn]
          rfl
      | shutdown r hr =>
          have hparting := servingRecords_of_not_ordinary (.request r) (not_not_intro hr) ms
          rw [records_awaitingExit settings r, hparting, Phase.noted, if_pos hr]
          rfl
      | exit n hn =>
          have hparting := servingRecords_of_not_ordinary (.notification n) (not_not_intro hn) ms
          rw [records_ended, hparting, Phase.noted, if_pos hn]
          rfl

theorem records_awaitingInitialized (ms : List Message) :
    Phase.awaitingInitialized.records settings ms = confirmedRecords ms := by
  cases ms with
  | nil => rfl
  | cons m ms =>
      obtain ⟨s, q, hmove⟩ := Phase.exists_move settings .awaitingInitialized m rfl
      rw [records_move settings hmove]
      cases hmove with
      | initialized n hn =>
          have hconfirmed : (Message.notification n).isInitialized = true := decide_eq_true hn
          rw [records_serving, Phase.noted, confirmedRecords, if_pos hconfirmed, if_pos hconfirmed]
          rfl
      | notInitialized m hm =>
          rw [records_ended, Phase.noted, confirmedRecords, hm]
          rfl

theorem openedRecords_of_early (m : Message) (h : m.IsEarly) (ms : List Message) :
    openedRecords ((m :: ms).dropWhile (·.IsEarly)) =
      openedRecords (ms.dropWhile (·.IsEarly)) := by
  rw [List.dropWhile_cons, if_pos (decide_eq_true h)]

theorem openedRecords_of_not_early (m : Message) (h : ¬ m.IsEarly) (ms : List Message) :
    openedRecords ((m :: ms).dropWhile (·.IsEarly)) = openedRecords (m :: ms) := by
  rw [List.dropWhile_cons, if_neg (ne_true_of_eq_false (decide_eq_false h))]

theorem records_awaitingInitialize (ms : List Message) :
    Phase.awaitingInitialize.records settings ms = openedRecords (ms.dropWhile (·.IsEarly)) := by
  induction ms with
  | nil => rfl
  | cons m ms ih =>
      obtain ⟨s, q, hmove⟩ := Phase.exists_move settings .awaitingInitialize m rfl
      rw [records_move settings hmove]
      cases hmove with
      | earlyRequest r hr =>
          rw [ih, openedRecords_of_early (.request r) hr, Phase.noted, if_neg hr]
          rfl
      | earlyNotification n hn =>
          rw [ih, openedRecords_of_early (.notification n) hn]
          rfl
      | opened r client hr hc =>
          have hopened := openedRecords_of_not_early (.request r) (not_not_intro hr) ms
          rw [records_awaitingInitialized, hopened, Phase.noted, if_pos hr, openedRecords, hc]
      | badParams r f hr hf =>
          have hopened := openedRecords_of_not_early (.request r) (not_not_intro hr) ms
          rw [records_ended, hopened, Phase.noted, if_pos hr, openedRecords, hf]
          rfl
      | earlyExit n hn =>
          rw [records_ended, openedRecords_of_not_early (.notification n) (not_not_intro hn)]
          rfl
      | earlyResponse r =>
          rw [records_ended, openedRecords_of_not_early (.response r) not_false]
          rfl

/-! ## Whole sessions -/

theorem transcript_sound_records (ms : List Message) :
    (transcript settings .sound ms).records = course ms := by
  have hrun := run_sound_records settings .awaitingInitialize ms
  rw [records_awaitingInitialize] at hrun
  simp only [transcript, Transcript.records, start_eq, hrun]
  rfl

/-- A session that completes the handshake is recorded message by message from then on. -/
theorem course_completed {ms early later : List Message} {opening : Request}
    (h : CompletesHandshake ms early opening later) :
    ∃ client, Handshake.readParams opening.params = .ok client ∧
      course ms = ⟨.info, .connection, "initialize..."⟩ :: (clientRecords client ++
        ⟨.info, .connection, "starting lsp"⟩ :: servingRecords later) := by
  obtain ⟨client, hc⟩ := h.accepted
  obtain ⟨n, hn, rfl⟩ := h.confirmed
  have hearly : ∀ m ∈ early, decide m.IsEarly = true := fun m hm => decide_eq_true (h.isEarly m hm)
  have hopening : ¬ (Message.request opening).IsEarly := not_not_intro h.method
  have hconfirmed : (Message.notification n).isInitialized = true := decide_eq_true hn
  refine ⟨client, hc, ?_⟩
  rw [course, List.dropWhile_append_of_pos hearly, openedRecords_of_not_early _ hopening,
    openedRecords, hc, confirmedRecords, if_pos hconfirmed]

end Session

end LspAdapter
