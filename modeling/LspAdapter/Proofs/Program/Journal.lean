import LspAdapter.Proofs.Program.Exit
import LspAdapter.Proofs.Session.Records
/-!
# The journal of a run

All records of a run make up one sequence, which follows from the input; one record alone
shows the settings, and the lowest level alone admits it.  The level of the settings picks
out what is told, and the directory of the journal decides where.  That directory has no
part in what the run sends or in how it exits, and no record goes to the output.

* `records_eq` — the one sequence;
* `ofRecord_eq` — the text of a record in the journal;
* `Accepted.run_eq` — what a run writes, and where;
* `filter_told_of_le` — what a level tells of what a lower one tells.
-/

namespace LspAdapter.Program

open CommandLine (Argument)
open Framing (Delivery)
open Journal (Origin Record Severity)

/-! ## Levels -/

def severities : LogLevel → List Severity
  | .error => [.error]
  | .warn => [.error, .warn]
  | .info => [.error, .warn, .info]
  | .log => [.error, .warn, .info, .debug]

def told (level : LogLevel) (rs : List Record) : List Record :=
  rs.filter (·.severity ∈ severities level)

theorem admitted_eq (level : LogLevel) (rs : List Record) :
    Journal.admitted level rs = told level rs := by
  apply List.filter_congr
  intro r _
  unfold Journal.admits
  cases level <;> cases r.severity <;> rfl

theorem severities_subset {l l' : LogLevel} (h : l ≤ l') : severities l ⊆ severities l' := by
  revert h
  cases l <;> cases l' <;> decide

theorem filter_told {l l' : LogLevel} (h : l ≤ l') (rs : List Record) :
    (told l' rs).filter (·.severity ∈ severities l) = told l rs := by
  unfold told
  rw [List.filter_filter]
  apply List.filter_congr
  intro r _
  by_cases hr : r.severity ∈ severities l
  · have hr' : r.severity ∈ severities l' := severities_subset h hr
    rw [decide_eq_true hr, decide_eq_true hr', Bool.and_self]
  · rw [decide_eq_false hr, Bool.false_and]

/-! ## The sequence of all records -/

def headRecords (processId : String) : List Record :=
  [⟨.info, .program, "typescript_language_server - v0.1.0"⟩,
    ⟨.info, .program, "PID: " ++ processId⟩]

def settingsRecord (settings : Settings) : Record :=
  ⟨.debug, .program, "config: " ++ settings.toJson.compact⟩

def lastRecord : Record :=
  ⟨.info, .connection, "connection closed"⟩

/-- Whether a run whose input delivers something succeeds, whatever its settings. -/
def Succeeds (d : Delivery) : Bool :=
  d.fault.isNone && (session .standard d).ending.isFinished

def tailRecords (d : Delivery) : List Record :=
  Session.course d.messages ++ if Succeeds d then [lastRecord] else []

/-- All records of a run, whatever its level. -/
def chronicle (processId : String) (settings : Settings) (d : Delivery) : List Record :=
  headRecords processId ++ settingsRecord settings :: tailRecords d

theorem ending_session (c d : Settings) (delivery : Delivery) :
    (session c delivery).ending = (session d delivery).ending := by
  have hafter := (Session.run_settings c d .awaitingInitialize delivery.messages).1
  rw [session, session, Session.transcript_sound_ending, Session.transcript_sound_ending, hafter]

theorem result_deliver_eq_ok_iff (settings : Settings) (input : List UInt8) :
    result settings (Framing.deliver input) = .ok () ↔
      Succeeds (Framing.deliver input) = true := by
  have hiff : result settings (Framing.deliver input) = .ok () ↔
      (Framing.deliver input).fault = none ∧
        (session settings (Framing.deliver input)).ending = .finished := by
    rw [← Delivery.untilExit_deliver input]
    exact result_eq_ok_iff
  rw [hiff, Succeeds, Bool.and_eq_true, Option.isNone_iff_eq_none,
    ending_session settings .standard]
  cases (session .standard (Framing.deliver input)).ending <;> simp [Session.Ending.isFinished]

/-- The records of a run are one sequence, which shows the settings in one place only. -/
theorem records_eq (processId : String) (settings : Settings) (input : List UInt8) :
    let d := Framing.deliver input
    records processId settings d (session settings d) = chronicle processId settings d := by
  intro d
  have hcourse : (session settings d).records = Session.course d.messages :=
    Session.transcript_sound_records settings d.messages
  have hclosing : closingRecords (result settings d) =
      if Succeeds d then [lastRecord] else [] := by
    cases hresult : result settings d with
    | ok _ =>
        rw [if_pos ((result_deliver_eq_ok_iff settings input).1 hresult)]
        rfl
    | error f =>
        have hfails : ¬ Succeeds d = true := by
          rw [← result_deliver_eq_ok_iff settings, hresult]
          nofun
        rw [if_neg hfails]
        rfl
  unfold result at hclosing
  rw [records, hcourse, hclosing, List.append_assoc]
  rfl

/-! ## The last record -/

theorem lastRecord_not_mem_partingRecords (ms : List Message) :
    lastRecord ∉ Session.partingRecords ms := by
  unfold Session.partingRecords
  split
  · decide
  · split <;> decide
  · decide

theorem lastRecord_not_mem_servingRecords (ms : List Message) :
    lastRecord ∉ Session.servingRecords ms := by
  have hordinary : ∀ m, Session.ordinaryRecord m ≠ lastRecord := by
    rintro (r | r | n) <;> nofun
  have hparting := lastRecord_not_mem_partingRecords (ms.dropWhile (·.IsOrdinary))
  rw [Session.servingRecords, List.mem_append, List.mem_map]
  rintro (⟨m, -, hm⟩ | hmem)
  · exact hordinary m hm
  · exact hparting hmem

theorem lastRecord_not_mem_confirmedRecords (ms : List Message) :
    lastRecord ∉ Session.confirmedRecords ms := by
  unfold Session.confirmedRecords
  split
  · split
    · rw [List.mem_cons, not_or]
      exact ⟨by decide, lastRecord_not_mem_servingRecords _⟩
    · decide
  · decide

theorem lastRecord_not_mem_clientRecords (client : Option Handshake.Client) :
    lastRecord ∉ Session.clientRecords client := by
  cases client with
  | none => decide
  | some c =>
      rw [Session.clientRecords, Option.toList_some, List.map_singleton, List.mem_singleton]
      nofun

theorem lastRecord_not_mem_openedRecords (ms : List Message) :
    lastRecord ∉ Session.openedRecords ms := by
  unfold Session.openedRecords
  split
  · split
    · rw [List.mem_append, not_or]
      exact ⟨lastRecord_not_mem_clientRecords _, lastRecord_not_mem_confirmedRecords _⟩
    · decide
  · decide

theorem lastRecord_not_mem_course (ms : List Message) :
    lastRecord ∉ Session.course ms := by
  rw [Session.course, List.mem_cons, not_or]
  exact ⟨by decide, lastRecord_not_mem_openedRecords _⟩

theorem lastRecord_chronicle (processId : String) (settings : Settings) (d : Delivery) :
    (Succeeds d = true → (chronicle processId settings d).getLast? = some lastRecord) ∧
      (¬ Succeeds d = true → lastRecord ∉ chronicle processId settings d) := by
  unfold chronicle tailRecords
  constructor
  · intro hsucceeds
    rw [if_pos hsucceeds, ← List.cons_append, ← List.append_assoc, List.getLast?_concat]
  · intro hfails
    have hhead : lastRecord ∉ headRecords processId := by
      rw [headRecords, List.mem_cons, List.mem_singleton]
      rintro (h | h) <;> cases h
    have hsettings : lastRecord ≠ settingsRecord settings := nofun
    have hcourse := lastRecord_not_mem_course d.messages
    rw [if_neg hfails, List.append_nil, List.mem_append, List.mem_cons, not_or, not_or]
    exact ⟨hhead, hsettings, hcourse⟩

/-! ## Two levels -/

/-- Only the lowest level tells the record that shows the settings. -/
theorem told_chronicle_congr {level : LogLevel} (h : level ≠ .log) (processId : String)
    (c d : Settings) (delivery : Delivery) :
    told level (chronicle processId c delivery) = told level (chronicle processId d delivery) := by
  have hhidden : ∀ settings rs, told level (settingsRecord settings :: rs) = told level rs := by
    intro settings rs
    apply List.filter_cons_of_neg
    cases level with
    | error | warn | info => exact Bool.false_ne_true
    | log => exact absurd rfl h
  have happend : ∀ rs rs', told level (rs ++ rs') = told level rs ++ told level rs' := fun _ _ =>
    List.filter_append ..
  rw [chronicle, chronicle, happend, happend, hhidden, hhidden]

/-- Of two runs whose settings differ in the level alone, the one with the graver level
tells what the other tells and is grave enough. -/
theorem filter_told_of_le (processId : String) {c d : Settings}
    (hsame : c = { d with messageLevel := c.messageLevel })
    (hle : c.messageLevel ≤ d.messageLevel) (delivery : Delivery) :
    told c.messageLevel (chronicle processId c delivery) =
      (told d.messageLevel (chronicle processId d delivery)).filter
        (·.severity ∈ severities c.messageLevel) := by
  rw [filter_told hle]
  by_cases hlog : c.messageLevel = .log
  · have hlog' : d.messageLevel = .log := by
      rw [hlog] at hle
      cases hlevel : d.messageLevel with
      | log => rfl
      | error | warn | info =>
          rw [hlevel] at hle
          exact absurd hle (by decide)
    have hcd : c = d := by
      rw [hsame, hlog, ← hlog']
    rw [hcd]
  · exact told_chronicle_congr hlog processId c d delivery

/-! ## What is written -/

def severityName : Severity → String
  | .error => "ERROR"
  | .warn => "WARN"
  | .info => "INFO"
  | .debug => "DEBUG"

def originName : Origin → String
  | .program => "typescript_language_server"
  | .connection => "typescript_language_server::connection"
  | .handshake => "typescript_language_server::method::initialize"

/-- A character as the journal shows it, those that steer a terminal by their codes. -/
def legible (c : Char) : List Char :=
  if c ∈ ['\x07', '\x08', '\x0c', '\x1b', '\x7f'] then
    ['\\', 'x', Nat.digitChar (c.toNat / 16), Nat.digitChar (c.toNat % 16)]
  else if 0x80 ≤ c.toNat ∧ c.toNat ≤ 0x9F then
    ['\\', 'u', '{'] ++ Nat.toDigits 16 c.toNat ++ ['}']
  else [c]

def inscription (r : Record) : Passage :=
  ⟨severityName r.severity ++ " " ++ originName r.origin ++ ": " ++
    String.ofList (r.text.toList.flatMap legible) ++ "\n", some r.severity⟩

theorem journalChar_eq (c : Char) : Journal.journalChar c = legible c := by
  unfold legible
  by_cases hc : c ∈ ['\x07', '\x08', '\x0c', '\x1b', '\x7f']
  · rw [if_pos hc]
    simp only [List.mem_cons, List.not_mem_nil, or_false] at hc
    rcases hc with rfl | rfl | rfl | rfl | rfl <;> rfl
  · rw [if_neg hc]
    simp only [List.mem_cons, List.not_mem_nil, or_false, not_or] at hc
    obtain ⟨hbell, hback, hfeed, hescape, hdelete⟩ := hc
    unfold Journal.journalChar
    split <;> first | contradiction | rfl

theorem ofRecord_eq (r : Record) : Passage.ofRecord r = inscription r := by
  have hchars : Journal.journalChar = legible := funext journalChar_eq
  have hheading : r.heading = severityName r.severity ++ " " ++ originName r.origin ++ ": " := by
    unfold Record.heading
    cases r.severity <;> cases r.origin <;> rfl
  rw [Passage.ofRecord, Record.written, hchars, hheading]
  rfl

/-- What is written beside the records: a warning about the level, or why the run failed,
unless it crashed. -/
def warningNote (w : Option Warning) : List Passage :=
  w.toList.map fun w => ⟨w.text, none⟩

def failureNote : Except Failure Unit → List Passage
  | .ok () => []
  | .error f => if f.isCrash then [] else [⟨"Error: " ++ f.outline ++ "\n", none⟩]

theorem reportOf_eq (settings : Settings) (warning : Option Warning)
    (location : Option Location) (sent : List Message) (rs : List Record)
    (o : Except Failure Unit) :
    let ps := (told settings.messageLevel rs).map inscription
    reportOf settings warning location sent rs o =
      { status := exitStatus o
        printed := if exitStatus o = 0 then some (.messages sent) else none
        errors := warningNote warning ++ (if location.isNone then ps else []) ++ failureNote o
        journal := location.map (·, ps) } := by
  intro ps
  have hps : (Journal.admitted settings.messageLevel rs).map Passage.ofRecord = ps := by
    rw [admitted_eq, funext ofRecord_eq]
  unfold reportOf
  dsimp only
  rw [hps]
  cases o with
  | ok _ => rfl
  | error f =>
      have hstatus : exitStatus (.error f) ≠ 0 := by
        rw [Ne, exitStatus_eq_zero_iff]
        nofun
      rw [if_neg hstatus]
      rfl

/-! ## Runs -/

/-- A command line that is accepted, and whose journal can be kept. -/
structure Accepted (argv : List Argument) (a : Arguments) : Prop where
  parsed : CommandLine.parse argv = .ok a
  usable : a.logDirectory.map Location.ofDirectory ≠ some .unusable

def toldBy (processId : String) (a : Arguments) (d : Delivery) : List Record :=
  told (Settings.resolve a).1.messageLevel (chronicle processId (Settings.resolve a).1 d)

variable {argv : List Argument} {a b : Arguments}

/-- No record goes to the output, and to the error channel only if no directory is named
for the journal. -/
theorem Accepted.run_eq (h : Accepted argv a) (processId : String) (input : List UInt8) :
    let d := Framing.deliver input
    let location := a.logDirectory.map Location.ofDirectory
    let o := result (Settings.resolve a).1 d
    let ps := (toldBy processId a d).map inscription
    run processId argv input =
      { status := exitStatus o
        printed := if exitStatus o = 0 then
            some (.messages (session (Settings.resolve a).1 d).sent)
          else none
        errors := warningNote (Settings.resolve a).2 ++ (if location.isNone then ps else []) ++
          failureNote o
        journal := location.map (·, ps) } := by
  intro d location o ps
  rw [run_eq_serve processId h.parsed h.usable, serve, reportOf_eq, records_eq]
  rfl

theorem Accepted.status_eq_zero_iff (h : Accepted argv a) (processId : String)
    (input : List UInt8) :
    (run processId argv input).status = 0 ↔ Succeeds (Framing.deliver input) = true := by
  rw [h.run_eq, exitStatus_eq_zero_iff, result_deliver_eq_ok_iff]

theorem resolve_of_logLevel (h : a = { b with logLevel := a.logLevel }) :
    (Settings.resolve a).1 =
      { (Settings.resolve b).1 with messageLevel := (Settings.resolve a).1.messageLevel } := by
  rw [h]
  rfl

theorem resolve_of_logDirectory (h : a = { b with logDirectory := a.logDirectory }) :
    Settings.resolve a = Settings.resolve b := by
  rw [h]
  rfl

/-- For every input there is one sequence of records, in which one record alone depends on
the settings.  A run writes those that its level tells, each with its severity, its origin
and its text, to the file of the journal if there is one and to the error channel if not,
and puts none on the output.

If two runs differ in the level alone, the one with the graver level tells what the other
tells and is grave enough; if they differ in the directory of the journal alone, they exit
alike and send the same.  The sequence ends with the last record if the run succeeds, and
is without it if not.  Once the handshake is complete, it has one record for each message
that the session takes up to the one with which it stops to serve, and for that one, too,
unless it is a `shutdown` that `exit` does not follow. -/
theorem journal_filtered (processId : String) (input : List UInt8) :
    let d := Framing.deliver input
    (∀ argv a, Accepted argv a →
      let settings := (Settings.resolve a).1
      let r := run processId argv input
      let ps := (toldBy processId a d).map inscription
      let warned := warningNote (Settings.resolve a).2
      let failed := failureNote (result settings d)
      (a.logDirectory = none → r.journal = none ∧ r.errors = warned ++ ps ++ failed) ∧
        (∀ location, a.logDirectory.map Location.ofDirectory = some location →
          r.journal = some (location, ps) ∧ r.errors = warned ++ failed) ∧
        r.printed = (if r.status = 0 then some (.messages (session settings d).sent) else none) ∧
        (r.status = 0 → (chronicle processId settings d).getLast? = some lastRecord) ∧
        (r.status ≠ 0 → lastRecord ∉ chronicle processId settings d)) ∧
      (∀ a b : Arguments, a = { b with logLevel := a.logLevel } →
        let level := (Settings.resolve a).1.messageLevel
        level ≤ (Settings.resolve b).1.messageLevel →
        toldBy processId a d =
          (toldBy processId b d).filter (·.severity ∈ severities level)) ∧
      (∀ argv argv' a b, Accepted argv a → Accepted argv' b →
        a = { b with logDirectory := a.logDirectory } →
        (run processId argv input).status = (run processId argv' input).status ∧
          (run processId argv input).printed = (run processId argv' input).printed ∧
          toldBy processId a d = toldBy processId b d) ∧
      ∀ early opening later, Session.CompletesHandshake d.messages early opening later →
        ∃ client, Handshake.readParams opening.params = .ok client ∧
          ∀ settings, chronicle processId settings d =
            headRecords processId ++ settingsRecord settings ::
              ⟨.info, .connection, "initialize..."⟩ :: (Session.clientRecords client ++
                ⟨.info, .connection, "starting lsp"⟩ ::
                  ((later.takeWhile (·.IsOrdinary)).map Session.ordinaryRecord ++
                    Session.partingRecords (later.dropWhile (·.IsOrdinary)) ++
                      if Succeeds d then [lastRecord] else [])) := by
  intro d
  refine ⟨?_, ?_, ?_, ?_⟩
  · intro argv a h settings r ps warned failed
    have hrun := h.run_eq processId input
    obtain ⟨hlast, hnone⟩ := lastRecord_chronicle processId settings d
    have hstatus := h.status_eq_zero_iff processId input
    refine ⟨?_, ?_, ?_, fun hzero => hlast (hstatus.1 hzero), fun hfailed => ?_⟩
    · intro hdirectory
      unfold r
      rw [hrun, hdirectory]
      exact ⟨rfl, rfl⟩
    · intro location hlocation
      unfold r
      rw [hrun, hlocation]
      refine ⟨rfl, ?_⟩
      simp [warned, failed, settings, d]
    · unfold r
      rw [hrun]
    · exact hnone fun hsucceeds => hfailed (hstatus.2 hsucceeds)
  · intro a b hsame level hle
    exact filter_told_of_le processId (resolve_of_logLevel hsame) hle d
  · intro argv argv' a b h h' hsame
    have hsettings := resolve_of_logDirectory hsame
    refine ⟨?_, ?_, ?_⟩
    · rw [h.run_eq, h'.run_eq, hsettings]
    · rw [h.run_eq, h'.run_eq, hsettings]
    · rw [toldBy, toldBy, hsettings]
  · intro early opening later h
    obtain ⟨client, hclient, hcourse⟩ := Session.course_completed h
    refine ⟨client, hclient, fun settings => ?_⟩
    rw [chronicle, tailRecords, hcourse, Session.servingRecords]
    simp only [List.cons_append, List.append_assoc]

def journaledCommandLine : List Argument :=
  ["typescript-language-server", "--stdio", "--log-level", "2", "--logdir", "logs"].map .ofText

theorem journal_filtered_briefClient :
    let input := briefClient.flatMap Framing.frameOf
    let a : Arguments :=
      { Arguments.none with stdio := true, logLevel := some "2", logDirectory := some "logs" }
    let opening : Request := ⟨.number 1, "initialize", .object [("capabilities", .object [])]⟩
    let leaving : Message := .notification ⟨"exit", .null⟩
    let r := run "1" journaledCommandLine input
    Accepted journaledCommandLine a ∧
      Session.CompletesHandshake (Framing.deliver input).messages [] opening [leaving] ∧
      r.status = 0 ∧ r.errors = [] ∧
      r.journal = some (.below "logs/typescript_language_server.log",
        [⟨"WARN typescript_language_server::connection: exit without shutdown\n", some .warn⟩]) ∧
      chronicle "1" (Settings.resolve a).1 (Framing.deliver input) =
        [⟨.info, .program, "typescript_language_server - v0.1.0"⟩,
          ⟨.info, .program, "PID: 1"⟩, settingsRecord (Settings.resolve a).1,
          ⟨.info, .connection, "initialize..."⟩, ⟨.info, .connection, "starting lsp"⟩,
          ⟨.warn, .connection, "exit without shutdown"⟩,
          ⟨.info, .connection, "connection closed"⟩] := by
  intro input a opening leaving r
  have hdelivered : Framing.deliver input = ⟨briefClient, none⟩ :=
    Framing.deliver_frames readable_briefClient
  have haccepted : Accepted journaledCommandLine a := ⟨rfl, by decide⟩
  have hhandshake :
      Session.CompletesHandshake (Framing.deliver input).messages [] opening [leaving] := by
    rw [hdelivered]
    exact ⟨nofun, rfl, ⟨none, rfl⟩, _, rfl, rfl⟩
  have hsucceeds : Succeeds (Framing.deliver input) = true := by
    rw [hdelivered]
    rfl
  obtain ⟨hruns, -, -, hsequence⟩ := journal_filtered "1" input
  obtain ⟨-, hwritten, -, -, hnone⟩ := hruns journaledCommandLine a haccepted
  obtain ⟨hjournal, herrors⟩ := hwritten (.below "logs/typescript_language_server.log") rfl
  obtain ⟨client, hclient, hchronicle⟩ := hsequence [] opening [leaving] hhandshake
  have hnobody : client = none := (Except.ok.inj hclient).symm
  have hall : chronicle "1" (Settings.resolve a).1 (Framing.deliver input) = _ :=
    hchronicle (Settings.resolve a).1
  subst hnobody
  rw [if_pos hsucceeds] at hall
  have hstatus : r.status = 0 := by
    by_contra hfailed
    apply hnone hfailed
    rw [hall]
    simp
  have htold : toldBy "1" a (Framing.deliver input) =
      [⟨.warn, .connection, "exit without shutdown"⟩] := by
    rw [toldBy, hall]
    rfl
  have hok : result (Settings.resolve a).1 (Framing.deliver input) = .ok () :=
    (result_deliver_eq_ok_iff _ _).2 hsucceeds
  refine ⟨haccepted, hhandshake, hstatus, ?_, ?_, hall⟩
  · rw [herrors, hok]
    rfl
  · rw [hjournal, htold]
    rfl

end LspAdapter.Program
