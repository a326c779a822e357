import LspAdapter.Proofs.Session.Sound
/-!
# The replies of a session

Every request that a session deals with gets one reply, under its own id and in
the order of the requests.  A request before the handshake is told that the
server is not initialized, the request that opens the handshake gets the
description of the server, and after it `shutdown` gets null and every other
request is told that its method is not known.

`responses_sent` says so for a whole session.  The message that makes a session
fail gets no reply.
-/

namespace LspAdapter

def Message.request? : Message → Option Request
  | .request r => some r
  | _ => none

def Message.response? : Message → Option Response
  | .response r => some r
  | _ => none

def requests (ms : List Message) : List Request :=
  ms.filterMap Message.request?

def responses (ms : List Message) : List Response :=
  ms.filterMap Message.response?

theorem requests_append (as bs : List Message) :
    requests (as ++ bs) = requests as ++ requests bs := by
  exact List.filterMap_append

theorem responses_append (as bs : List Message) :
    responses (as ++ bs) = responses as ++ responses bs := by
  exact List.filterMap_append

namespace Session

variable (settings : Settings)

def earlyReply (r : Request) : Response :=
  ⟨r.id, none, some ⟨-32002, "expected initialize request, got " ++ r.outline, none⟩⟩

/-- The reply that opens the handshake tells how positions are counted, and the name and
version of the server. -/
def openingReply (r : Request) : Response :=
  ⟨r.id, some (.object [
    ("capabilities", .object [("positionEncoding", .text "utf-16")]),
    ("serverInfo", .object [
      ("name", .text "typescript_language_server"), ("version", .text "0.1.0")])]), none⟩

def laterReply (r : Request) : Response :=
  if r.method = "shutdown" then ⟨r.id, some .null, none⟩
  else ⟨r.id, none, some ⟨-32601, "method not found: " ++ r.method, none⟩⟩

def handshakeReplies : List Request → List Response
  | [] => []
  | r :: later => openingReply r :: later.map laterReply

def replies (rs : List Request) : List Response :=
  (rs.takeWhile fun r => r.method ≠ "initialize").map earlyReply ++
    handshakeReplies (rs.dropWhile fun r => r.method ≠ "initialize")

/-- Some messages answer the requests among others: one response for each of
them, under the same id and in the same order, and with the content that is due. -/
structure Answers (sent received : List Message) : Prop where
  ids : (responses sent).map (·.id) = (requests received).map (·.id)
  contents : responses sent = replies (requests received)

/-- A failure is due to a message: it is not what the session waited for, or it
is the request `initialize` and its parameters are bad. -/
def Failure.DueTo (m : Message) : Failure → Prop
  | .breach (.notInitialize m') => m' = m
  | .breach (.notInitialized m') => m' = m
  | .breach (.notExit m') => m' = m
  | .badParams f => ∃ r, m = .request r ∧ r.method = "initialize" ∧
      Handshake.readParams r.params = .error f
  | _ => False

def Failure.IsDisconnection : Failure → Prop
  | .breach .disconnected => True
  | .breach .noExit => True
  | _ => False

/-! ## The content of replies -/

theorem id_laterReply (r : Request) : (laterReply r).id = r.id := by
  unfold laterReply
  split <;> rfl

theorem ids_handshakeReplies (rs : List Request) :
    (handshakeReplies rs).map (·.id) = rs.map (·.id) := by
  cases rs with
  | nil => rfl
  | cons r later =>
      simp only [handshakeReplies, List.map_cons, List.map_map, Function.comp_def, id_laterReply]
      rfl

theorem ids_replies (rs : List Request) : (replies rs).map (·.id) = rs.map (·.id) := by
  have hearly : ∀ early : List Request,
      (early.map earlyReply).map (·.id) = early.map (·.id) := by
    intro early
    simp only [List.map_map, Function.comp_def, earlyReply]
  rw [replies, List.map_append, hearly, ids_handshakeReplies, ← List.map_append,
    List.takeWhile_append_dropWhile]

theorem replies_cons_early (r : Request) (rs : List Request) (h : r.method ≠ "initialize") :
    replies (r :: rs) = earlyReply r :: replies rs := by
  simp [replies, handshakeReplies, h]

theorem replies_cons_opening (r : Request) (rs : List Request)
    (h : r.method = "initialize") :
    replies (r :: rs) = openingReply r :: rs.map laterReply := by
  simp [replies, handshakeReplies, h]

/-! ## The replies of a run -/

def Phase.replies : Phase → List Request → List Response
  | .awaitingInitialize, rs => Session.replies rs
  | _, rs => rs.map laterReply

/-- A message that does not end the session is replied to as its phase says. -/
theorem responses_move {p q : Phase} {m : Message} {s : List (Message × OnFailure)}
    (h : Move settings p m s q) (hq : q.isEnded = false) (rs : List Request) :
    responses (s.map Prod.fst) ++ q.replies rs = p.replies (requests [m] ++ rs) := by
  cases h with
  | earlyRequest r hr => exact (replies_cons_early r rs hr).symm
  | opened r client hr hc => exact (replies_cons_opening r rs hr).symm
  | earlyNotification n hn => rfl
  | initialized n hn =>
      have hnone : responses (announced settings) = [] := by
        unfold announced
        split <;> rfl
      simp only [List.map_map, Function.comp_def, List.map_id']
      rw [hnone]
      rfl
  | shutdown r hr =>
      have hreply : laterReply r = .ok r.id .null := by
        rw [laterReply, if_pos hr]
        rfl
      simp [responses, requests, Message.response?, Message.request?, Phase.replies, hreply]
  | request r hr =>
      have hreply : laterReply r = methodNotFound r := by
        rw [laterReply, if_neg hr]
        rfl
      simp [responses, requests, Message.response?, Message.request?, Phase.replies, hreply]
  | response r => rfl
  | notification n hn => rfl
  | badParams => cases hq
  | earlyExit => cases hq
  | earlyResponse => cases hq
  | notInitialized => cases hq
  | exit => cases hq
  | farewell => cases hq
  | notExit => cases hq

/-- As long as a run has not ended, all of its requests have been replied to. -/
theorem responses_running (p : Phase) (ms : List Message)
    (h : (p.after settings ms).isEnded = false) :
    responses (p.sent settings ms) = p.replies (requests ms) := by
  induction ms generalizing p with
  | nil => cases p <;> rfl
  | cons m ms ih =>
      have hp : p.isEnded = false := Phase.isEnded_of_after settings p (m :: ms) h
      have hnext := Phase.isEnded_of_after settings _ ms h
      have hmove := responses_move settings (move_react settings p m hp) hnext (requests ms)
      rw [Phase.sent_cons, responses_append, ih _ h]
      rw [← List.singleton_append, requests_append]
      exact hmove

/-- A message that ends the session makes it fail, or it is no request. -/
theorem dueTo_move {p : Phase} {m : Message} {s : List (Message × OnFailure)} {e : Ending}
    (h : Move settings p m s (.ended e)) :
    (e = .finished ∧ m.request? = none) ∨ ∃ f, e = .failed f ∧ f.DueTo m := by
  cases h with
  | badParams r f hr hf => exact .inr ⟨_, rfl, r, rfl, hr, hf⟩
  | earlyExit n hn => exact .inr ⟨_, rfl, rfl⟩
  | earlyResponse r => exact .inr ⟨_, rfl, rfl⟩
  | notInitialized m hm => exact .inr ⟨_, rfl, rfl⟩
  | exit n hn => exact .inl ⟨rfl, rfl⟩
  | farewell n hn => exact .inl ⟨rfl, rfl⟩
  | notExit m hm => exact .inr ⟨_, rfl, rfl⟩

theorem isDisconnection_of_disconnect {p : Phase} {f : Failure} (hp : p.isEnded = false)
    (h : p.disconnect = .failed f) : f.IsDisconnection := by
  cases p <;> cases h <;> trivial

theorem answers_running (ms : List Message)
    (h : (Phase.awaitingInitialize.after settings ms).isEnded = false) :
    Answers (Phase.awaitingInitialize.sent settings ms) ms := by
  have hcontents := responses_running settings .awaitingInitialize ms h
  exact ⟨by rw [hcontents]; exact ids_replies _, hcontents⟩

/-- The responses of a session answer the requests that it took, one for each,
under its id and in order. Of a session that fails because of a message, that
message is the last one taken, and it is not answered. -/
theorem responses_sent (ms : List Message) :
    let t := transcript settings .sound ms
    let consumed := ms.take (ms.length - t.unread)
    (t.ending = .finished → Answers t.sent consumed) ∧
      ∀ f, t.ending = .failed f →
        (∃ before m, consumed = before ++ [m] ∧ f.DueTo m ∧ Answers t.sent before) ∨
          (f.IsDisconnection ∧ consumed = ms ∧ Answers t.sent ms) := by
  intro t consumed
  rcases transcript_runs_or_ends settings ms with
    ⟨hall, hrun⟩ | ⟨before, m, rest, e, rfl, hrun, hmove, hend, hrest, hsent⟩
  · have hconsumed : consumed = ms := by
      simp only [consumed, t, hall, Nat.sub_zero, List.take_length]
    have hanswers : Answers t.sent ms := by
      rw [show t.sent = _ from transcript_sound_sent settings ms]
      exact answers_running settings ms hrun
    refine ⟨fun _ => hconsumed ▸ hanswers, fun f hf => .inr ⟨?_, hconsumed, hanswers⟩⟩
    rw [show t.ending = _ from transcript_sound_ending settings ms] at hf
    exact isDisconnection_of_disconnect hrun hf
  · have hconsumed : consumed = before ++ [m] := by
      have hlength : (before ++ m :: rest).length - t.unread = before.length + 1 := by
        rw [show t.unread = _ from hrest, List.length_append, List.length_cons]
        omega
      simp only [consumed, hlength, List.take_append, List.take_of_length_le (Nat.le_succ _),
        Nat.add_sub_cancel_left, List.take_succ_cons, List.take_zero]
    have hanswers : Answers t.sent before := by
      rw [show t.sent = _ from hsent]
      exact answers_running settings before hrun
    rcases dueTo_move settings hmove with ⟨rfl, hm⟩ | ⟨f, rfl, hf⟩
    · refine ⟨fun _ => ?_, fun f hf => ?_⟩
      · have hrequests : requests consumed = requests before := by
          rw [hconsumed, requests_append]
          simp [requests, hm]
        exact ⟨hrequests ▸ hanswers.ids, hrequests ▸ hanswers.contents⟩
      · rw [show t.ending = _ from hend] at hf
        cases hf
    · refine ⟨fun h => ?_, fun f' hf' => .inl ⟨before, m, hconsumed, ?_, hanswers⟩⟩
      · rw [show t.ending = _ from hend] at h
        cases h
      · rw [show t.ending = _ from hend] at hf'
        cases hf'
        exact hf

end Session

end LspAdapter
