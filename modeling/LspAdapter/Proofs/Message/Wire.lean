import LspAdapter.Framing.Delivery
import LspAdapter.Proofs.Config.RoundTrip
import LspAdapter.Proofs.Json.RoundTrip
import LspAdapter.Proofs.Session.Move
/-!
# Texts that others choose, on the wire

A user chooses the path in the settings, and a client the method and the id of a request.
Whatever they choose, the JSON text that it is put into is one object with the same fields
as ever, and it is read back as what was written.  So no such text adds or changes a
field, and what is different is written differently.

* `Message.carriedAs_fields` — a message that can be read from its fields comes back from
  the wire;
* `ofJson?_notification`, `ofJson?_failure` — the messages that can be read from their
  fields;
* `Settings.ofJson?_toJson` — the same for settings.
-/

namespace LspAdapter

open Json (Value)

/-! ## Messages read from their fields -/

theorem int32?_toInt (n : Int32) : (Value.int n.toInt).int32? = some n := by
  have hlow := n.le_toInt
  have hhigh := n.toInt_lt
  have hrange : -0x80000000 ≤ n.toInt ∧ n.toInt < 0x80000000 := by omega
  rw [Value.int, Value.int32?, if_pos hrange, Int32.ofInt_toInt]

theorem RequestId.ofJson?_toJson (id : RequestId) : RequestId.ofJson? id.toJson = some id := by
  cases id with
  | number n =>
      rw [toJson, ofJson?, int32?_toInt]
      rfl
  | text s => rfl

/-- A notification is read from its fields if those of its parameters are in order. -/
theorem ofJson?_notification {n : Notification} (h : n.params.sorted = n.params) :
    Message.ofJson? (Message.notification n).toJson = some (.notification n) := by
  obtain ⟨method, params⟩ := n
  -- The parameters are left out where they are null, and nowhere else.
  have hrequest : Request.ofJson? (Message.notification ⟨method, params⟩).toJson = none := by
    cases params <;> rfl
  have hresponse : Response.ofJson? (Message.notification ⟨method, params⟩).toJson = none := by
    cases params <;> rfl
  have hnotification : Notification.ofJson? (Message.notification ⟨method, params⟩).toJson =
      some ⟨method, params.sorted⟩ := by
    cases params <;> rfl
  rw [Message.ofJson?, hrequest, hresponse, hnotification]
  show some (Message.notification ⟨method, params.sorted⟩) = _
  rw [h]

theorem ResponseError.ofJson?_toJson (code : Int32) (text : String) :
    ResponseError.ofJson? (ResponseError.toJson ⟨code, text, none⟩) = some ⟨code, text, none⟩ := by
  show ((Value.int code.toInt).int32?.bind fun c => some (⟨c, text, none⟩ : ResponseError)) = _
  rw [int32?_toInt]
  rfl

theorem ofJson?_failure (id : RequestId) (code : Int32) (text : String) :
    Message.ofJson? (Message.response (.failure id code text)).toJson =
      some (.response (.failure id code text)) := by
  have hrequest : Request.ofJson? (Message.response (.failure id code text)).toJson = none := rfl
  have hresponse : Response.ofJson? (Message.response (.failure id code text)).toJson =
      some (.failure id code text) := by
    show ((RequestId.ofJson? id.toJson).bind fun i =>
      ((ResponseError.ofJson? (ResponseError.toJson ⟨code, text, none⟩)).map some).bind fun e =>
        some (⟨i, none, e⟩ : Response)) = _
    rw [RequestId.ofJson?_toJson, ResponseError.ofJson?_toJson]
    rfl
  rw [Message.ofJson?, hrequest, hresponse]
  rfl

/-! ## Messages that come back from the wire -/

/-- Whether the text of a message is one JSON object, with some fields behind the version
of the protocol and no raw control character, that is read as the message. -/
structure Message.CarriedAs (m : Message) (fields : Json.Fields) : Prop where
  shown : Json.Shown m.wire.toList
  object : Json.read m.wire = .ok (.object (("jsonrpc", .text "2.0") :: fields))
  message : Framing.readPayload m.wire = .ok m

theorem Message.carriedAs_fields {m : Message} (hfits : m.toJson.Fits Json.depthLimit)
    (hread : Message.ofJson? m.toJson = some m) : m.CarriedAs m.fields := by
  refine ⟨Json.shown_compact hfits, Json.read_compact hfits, ?_⟩
  rw [Framing.readPayload, wire, Json.readFront_compact hfits]
  simp only [Except.mapError, bind, Except.bind, hread]
  rfl

theorem Message.CarriedAs.wire_inj {m m' : Message} {fields fields' : Json.Fields}
    (h : m.CarriedAs fields) (h' : m'.CarriedAs fields') : m.wire = m'.wire ↔ m = m' := by
  constructor
  · intro heq
    have hmessage := h.message
    rw [heq, h'.message] at hmessage
    exact (Except.ok.inj hmessage).symm
  · rintro rfl
    rfl

theorem fits_int32 (limit : Nat) (n : Int32) : (Value.int n.toInt).Fits limit := by
  have hlow := n.le_toInt
  have hhigh := n.toInt_lt
  exact .integer limit n.toInt (by omega) (by omega)

theorem fits_id (limit : Nat) (id : RequestId) : id.toJson.Fits limit := by
  cases id with
  | number n => exact fits_int32 limit n
  | text s => exact .text limit s

theorem fits_paramsField {limit : Nat} {params : Value} (h : params.Fits limit) :
    ∀ f ∈ paramsField params, f.2.Fits limit := by
  unfold paramsField
  split
  · nofun
  · rw [List.forall_mem_singleton]
    exact h

theorem Message.fits_request {r : Request} (h : r.params.Fits 127) :
    (Message.request r).toJson.Fits Json.depthLimit := by
  refine .object 127 _ (by decide) ?_
  show ∀ f ∈ ("jsonrpc", _) :: ("id", _) :: ("method", _) :: paramsField r.params, _
  rw [List.forall_mem_cons, List.forall_mem_cons, List.forall_mem_cons]
  exact ⟨.text _ _, fits_id _ r.id, .text _ _, fits_paramsField h⟩

theorem Message.fits_notification {n : Notification} (h : n.params.Fits 127) :
    (Message.notification n).toJson.Fits Json.depthLimit := by
  refine .object 127 _ (by decide) ?_
  show ∀ f ∈ ("jsonrpc", _) :: ("method", _) :: paramsField n.params, _
  rw [List.forall_mem_cons, List.forall_mem_cons]
  exact ⟨.text _ _, .text _ _, fits_paramsField h⟩

theorem carriedAs_logMessage (severity : LogLevel) (t : String) :
    (Message.notification (logMessage severity t)).CarriedAs
      [("method", .text "window/logMessage"),
        ("params", .object [("message", .text t), ("type", .int severity.number)])] := by
  have hnumber : (Value.int severity.number).Fits 126 := by
    have hlt := severity.number_lt_ten
    exact .integer 126 severity.number (by omega) (by omega)
  have hparams : (logMessage severity t).params.Fits 127 := by
    refine .object 126 _ (by decide) ?_
    rw [List.forall_mem_cons, List.forall_mem_singleton]
    exact ⟨.text _ _, hnumber⟩
  exact Message.carriedAs_fields (Message.fits_notification hparams) (ofJson?_notification rfl)

theorem carriedAs_failure (id : RequestId) (code : Int32) (text : String) :
    (Message.response (.failure id code text)).CarriedAs
      [("id", id.toJson),
        ("error", .object [("code", .int code.toInt), ("message", .text text)])] := by
  refine Message.carriedAs_fields (.object 127 _ (by decide) ?_) (ofJson?_failure id code text)
  show ∀ f ∈ [("jsonrpc", _), ("id", _), ("error", _)], _
  rw [List.forall_mem_cons, List.forall_mem_cons, List.forall_mem_singleton]
  refine ⟨.text _ _, fits_id _ id, .object 126 _ (by decide) ?_⟩
  show ∀ f ∈ [("code", _), ("message", _)], _
  rw [List.forall_mem_cons, List.forall_mem_singleton]
  exact ⟨fits_int32 _ code, .text _ _⟩

/-! ## Settings -/

def LogLevel.named? (name : String) : Option LogLevel :=
  [.error, .warn, .info, .log].find? fun l => l.name = name

def Settings.pathOf? : Value → Option (Option String)
  | .null => some none
  | .text p => some (some p)
  | _ => none

def Settings.ofJson? : Value → Option Settings
  | .object fields => do
    let path ← Json.Fields.get? fields "tsserverPath"
    let verbosity ← Json.Fields.get? fields "tsserverLogVerbosity"
    let level ← Json.Fields.get? fields "showMessageLevel"
    return ⟨← pathOf? path, ← Verbosity.named? (← verbosity.text?), ← LogLevel.named? (← level.text?)⟩
  | _ => none

theorem LogLevel.named?_name (l : LogLevel) : named? l.name = some l := by
  cases l <;> decide

theorem Verbosity.named?_name (v : Verbosity) : named? v.name = some v := by
  cases v <;> decide

theorem Settings.ofJson?_toJson (s : Settings) : ofJson? s.toJson = some s := by
  obtain ⟨path, verbosity, level⟩ := s
  have hnames : ((Verbosity.named? verbosity.name).bind fun v =>
      (LogLevel.named? level.name).bind fun l => some (⟨path, v, l⟩ : Settings)) =
      some ⟨path, verbosity, level⟩ := by
    rw [Verbosity.named?_name, LogLevel.named?_name]
    rfl
  cases path with
  | none => exact hnames
  | some p => exact hnames

theorem Settings.fits_toJson (s : Settings) : s.toJson.Fits Json.depthLimit := by
  refine .object 127 _ (by decide) ?_
  rw [List.forall_mem_cons, List.forall_mem_cons, List.forall_mem_singleton]
  refine ⟨?_, .text _ _, .text _ _⟩
  cases s.tsserverPath with
  | none => exact .null _
  | some p => exact .text _ p

theorem Settings.toJson_inj {s s' : Settings} : s.toJson = s'.toJson ↔ s = s' := by
  constructor
  · intro h
    have hread := s.ofJson?_toJson
    rw [h, ofJson?_toJson] at hread
    exact (Option.some.inj hread).symm
  · rintro rfl
    rfl

/-! ## Different texts -/

theorem LogLevel.number_inj {l l' : LogLevel} : l.number = l'.number ↔ l = l' := by
  cases l <;> cases l' <;> decide

theorem logMessage_inj {severity severity' : LogLevel} {t t' : String} :
    logMessage severity t = logMessage severity' t' ↔ severity = severity' ∧ t = t' := by
  have hnumber : (severity.number : Int) = severity'.number ↔ severity = severity' := by
    rw [Int.natCast_inj, LogLevel.number_inj]
  simp only [logMessage, Value.int, Notification.mk.injEq, Value.object.injEq, List.cons.injEq,
    Prod.mk.injEq, Value.text.injEq, Value.number.injEq, Json.Number.integer.injEq, hnumber,
    true_and, and_true]
  exact and_comm

theorem methodNotFound_inj {r r' : Request} :
    Session.methodNotFound r = Session.methodNotFound r' ↔ r.id = r'.id ∧ r.method = r'.method := by
  simp [Session.methodNotFound, Response.failure, String.append_right_inj]

/-- Whatever text a user or a client chooses, the JSON text that it is put into is one
object with the fields that it always has, the chosen text in its place, and no raw control
character. It is read back as the message or the settings that were written, and what is
different is written differently. -/
theorem texts_carried :
    (∀ severity t, (Message.notification (logMessage severity t)).CarriedAs
      [("method", .text "window/logMessage"),
        ("params", .object [("message", .text t), ("type", .int severity.number)])]) ∧
    (∀ (s : Settings) (t : String), s.tsserverPath = some t →
      s.messageLevel.admits .info = true → ∃ m ∈ Session.announced s, m.CarriedAs
        [("method", .text "window/logMessage"),
          ("params", .object [("message", .text ("Using tsserver from: " ++ t)),
            ("type", .int 3)])]) ∧
    (∀ r : Request, (Message.response (Session.methodNotFound r)).CarriedAs
      [("id", r.id.toJson),
        ("error", .object [("code", .int (-32601)),
          ("message", .text ("method not found: " ++ r.method))])]) ∧
    (∀ s : Settings, Json.Shown s.toJson.compact.toList ∧
      Json.read s.toJson.compact = .ok (.object
        [("tsserverPath", (s.tsserverPath.map Value.text).getD .null),
          ("tsserverLogVerbosity", .text s.verbosity.name),
          ("showMessageLevel", .text s.messageLevel.name)]) ∧
      (Json.read s.toJson.compact).toOption.bind Settings.ofJson? = some s) ∧
    (∀ severity severity' t t', (Message.notification (logMessage severity t)).wire =
      (Message.notification (logMessage severity' t')).wire ↔ severity = severity' ∧ t = t') ∧
    (∀ r r' : Request, (Message.response (Session.methodNotFound r)).wire =
      (Message.response (Session.methodNotFound r')).wire ↔ r.id = r'.id ∧ r.method = r'.method) ∧
    (∀ severity t r, (Message.notification (logMessage severity t)).wire ≠
      (Message.response (Session.methodNotFound r)).wire) ∧
    ∀ s s' : Settings, s.toJson.compact = s'.toJson.compact ↔ s = s' := by
  have hreply : ∀ r : Request, (Message.response (Session.methodNotFound r)).CarriedAs _ :=
    fun r => carriedAs_failure r.id Session.methodNotFoundCode ("method not found: " ++ r.method)
  refine ⟨carriedAs_logMessage, ?_, hreply, ?_, ?_, ?_, ?_, ?_⟩
  · intro s t ht hadmits
    refine ⟨.notification (logMessage .info ("Using tsserver from: " ++ t)), ?_,
      carriedAs_logMessage .info _⟩
    simp [Session.announced, Session.announcements, hadmits, ht]
  · intro s
    have hread := Json.read_compact s.fits_toJson
    refine ⟨Json.shown_compact s.fits_toJson, ?_, ?_⟩
    · rw [hread, Settings.toJson]
      cases s.tsserverPath <;> rfl
    · rw [hread]
      exact s.ofJson?_toJson
  · intro severity severity' t t'
    rw [(carriedAs_logMessage severity t).wire_inj (carriedAs_logMessage severity' t'),
      Message.notification.injEq, logMessage_inj]
  · intro r r'
    rw [(hreply r).wire_inj (hreply r'), Message.response.injEq, methodNotFound_inj]
  · intro severity t r h
    rw [(carriedAs_logMessage severity t).wire_inj (hreply r)] at h
    cases h
  · intro s s'
    rw [Json.compact_inj s.fits_toJson s'.fits_toJson, Settings.toJson_inj]

/-- A text that would close the object and begin another field stays a text. -/
example : (Message.notification (logMessage .info "\",\"type\":1")).wire =
    "\x7b\"jsonrpc\":\"2.0\",\"method\":\"window/logMessage\",\"params\":\x7b\"message\":\"" ++
      "\\\",\\\"type\\\":1" ++ "\",\"type\":3\x7d\x7d" := by
  decide +kernel

end LspAdapter
