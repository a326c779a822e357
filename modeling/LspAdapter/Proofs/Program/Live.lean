import LspAdapter.Program.Live
import LspAdapter.Proofs.Framing.Prefix
import LspAdapter.Proofs.Session.Exit
/-!
# Runs under way and whole runs

However the input is cut into pieces, a run that takes it turn by turn comes to an end, and
what it has done by then is what is told of a run that has all of the input at once.

* `Ends` — what a run under way comes to as its input comes in pieces;
* `exists_ends`, `Ends.does` — there is one, and it is the session with what the input
  delivers and the outcome of that;
* `serve_of_ends` — the report of the whole run, from what was done in the turns.
-/

namespace LspAdapter.Program

open Framing (Delivery Frame deliver)
open Session (Effect State)

variable {settings : Settings}

namespace Live

/-- A run under way comes to an outcome as its input comes in pieces and then ends, with one
effect for each message it takes. -/
inductive Ends (settings : Settings) :
    Live → List (List UInt8) → List Effect → Except Failure Unit → Prop
  | stops {x : Live} {o : Except Failure Unit} (pieces : List (List UInt8)) :
      x.turn settings = .stops o → Ends settings x pieces [] o
  | takes {x y : Live} {e : Effect} {pieces : List (List UInt8)} {es : List Effect}
      {o : Except Failure Unit} :
      x.turn settings = .takes e y → Ends settings y pieces es o →
        Ends settings x pieces (e :: es) o
  | reads {x : Live} {o' : Except Failure Unit} {piece : List UInt8}
      {pieces : List (List UInt8)} {es : List Effect} {o : Except Failure Unit} :
      x.turn settings = .waits o' → Ends settings (x.feed piece) pieces es o →
        Ends settings x (piece :: pieces) es o
  | starves {x : Live} {o : Except Failure Unit} :
      x.turn settings = .waits o → Ends settings x [] [] o

/-! ## Turns -/

/-- What a turn shows: the end of the session, or what is known of the next frame. -/
theorem turn_cases (settings : Settings) (x : Live) :
    (x.session.phase.isEnded = true ∧ x.turn settings = .stops (x.outcome none)) ∨
      x.session.phase.isEnded = false ∧
        ((∃ f, Frame.next x.pending = .fault f ∧ x.turn settings = .stops (x.outcome (some f))) ∨
          (∃ m rest, Frame.next x.pending = .message m rest ∧
            x.turn settings =
              .takes (x.session.step settings m).1 ⟨(x.session.step settings m).2, rest⟩) ∨
          ∃ f, Frame.next x.pending = .unfinished f ∧ x.turn settings = .waits (x.outcome f)) := by
  unfold turn
  cases hended : x.session.phase.isEnded with
  | true => exact .inl ⟨rfl, rfl⟩
  | false =>
      refine .inr ⟨rfl, ?_⟩
      cases hnext : Frame.next x.pending with
      | fault f => exact .inl ⟨f, rfl, rfl⟩
      | message m rest => exact .inr (.inl ⟨m, rest, rfl, rfl⟩)
      | unfinished f => exact .inr (.inr ⟨f, rfl, rfl⟩)

variable {x y : Live} {o : Except Failure Unit}

theorem of_turn_stops (h : x.turn settings = .stops o) :
    (x.session.phase.isEnded = true ∧ o = x.outcome none) ∨
      ∃ f, Frame.next x.pending = .fault f ∧ o = x.outcome (some f) := by
  rcases turn_cases settings x with
    ⟨hended, hturn⟩ | ⟨-, ⟨f, hnext, hturn⟩ | ⟨m, rest, -, hturn⟩ | ⟨f, -, hturn⟩⟩
  · exact .inl ⟨hended, Turn.stops.inj (h.symm.trans hturn)⟩
  · exact .inr ⟨f, hnext, Turn.stops.inj (h.symm.trans hturn)⟩
  · cases h.symm.trans hturn
  · cases h.symm.trans hturn

theorem of_turn_takes {e : Effect} (h : x.turn settings = .takes e y) :
    x.session.phase.isEnded = false ∧ ∃ m rest, Frame.next x.pending = .message m rest ∧
      e = (x.session.step settings m).1 ∧ y = ⟨(x.session.step settings m).2, rest⟩ := by
  rcases turn_cases settings x with
    ⟨-, hturn⟩ | ⟨hlive, ⟨f, -, hturn⟩ | ⟨m, rest, hnext, hturn⟩ | ⟨f, -, hturn⟩⟩
  · cases h.symm.trans hturn
  · cases h.symm.trans hturn
  · obtain ⟨he, hy⟩ := Turn.takes.inj (h.symm.trans hturn)
    exact ⟨hlive, m, rest, hnext, he, hy⟩
  · cases h.symm.trans hturn

theorem of_turn_waits (h : x.turn settings = .waits o) :
    ∃ f, Frame.next x.pending = .unfinished f ∧ o = x.outcome f := by
  rcases turn_cases settings x with
    ⟨-, hturn⟩ | ⟨-, ⟨f, -, hturn⟩ | ⟨m, rest, -, hturn⟩ | ⟨f, hnext, hturn⟩⟩
  · cases h.symm.trans hturn
  · cases h.symm.trans hturn
  · cases h.symm.trans hturn
  · exact ⟨f, hnext, Turn.waits.inj (h.symm.trans hturn)⟩

/-! ## The end of a run -/

/-- A run either waits or comes to an end, since each message takes some bytes. -/
theorem exists_ends_of_waits {pieces : List (List UInt8)}
    (hwaits : ∀ x o, turn settings x = .waits o → ∃ es o', Ends settings x pieces es o')
    (x : Live) : ∃ es o, Ends settings x pieces es o := by
  induction hlength : x.pending.length using Nat.strongRecOn generalizing x with
  | ind n ih =>
      rcases turn_cases settings x with
        ⟨-, hstops⟩ | ⟨-, ⟨f, -, hstops⟩ | ⟨m, rest, hnext, htakes⟩ | ⟨f, -, hopen⟩⟩
      · exact ⟨[], _, .stops pieces hstops⟩
      · exact ⟨[], _, .stops pieces hstops⟩
      · have hlt := (Framing.next_append_of_message hnext []).2
        obtain ⟨es, o, hends⟩ := ih rest.length (hlength ▸ hlt) ⟨_, rest⟩ rfl
        exact ⟨_, o, .takes htakes hends⟩
      · exact hwaits x _ hopen

/-- However its input is cut, a run comes to an end. -/
theorem exists_ends (settings : Settings) (x : Live) (pieces : List (List UInt8)) :
    ∃ es o, Ends settings x pieces es o := by
  induction pieces generalizing x with
  | nil => exact exists_ends_of_waits (fun x o h => ⟨[], o, .starves h⟩) x
  | cons piece pieces ih =>
      apply exists_ends_of_waits
      intro x o h
      obtain ⟨es, o', hends⟩ := ih (x.feed piece)
      exact ⟨es, o', .reads h hends⟩

theorem Ends.of_isEnded {pieces : List (List UInt8)} {es : List Effect}
    (h : Ends settings x pieces es o) (hended : x.session.phase.isEnded = true) :
    es = [] ∧ o = x.outcome none := by
  have hturn : x.turn settings = .stops (x.outcome none) := if_pos hended
  cases h with
  | stops _ hstops => exact ⟨rfl, Turn.stops.inj (hstops.symm.trans hturn)⟩
  | takes htakes _ => cases htakes.symm.trans hturn
  | reads hwaits _ => cases hwaits.symm.trans hturn
  | starves hwaits => cases hwaits.symm.trans hturn

/-! ## Whole runs -/

/-- Some effects and an outcome are those of the session with all that is delivered. -/
structure Does (settings : Settings) (s : State) (d : Delivery) (es : List Effect)
    (o : Except Failure Unit) : Prop where
  sent : es.flatMap (·.sent) = (s.run settings d.messages).1.flatMap (·.sent)
  records : es.flatMap (·.records) = (s.run settings d.messages).1.flatMap (·.records)
  outcome : o = Program.outcome (s.run settings d.messages).2.phase.disconnect d.fault
    (d.messages.length - s.taken settings d.messages)

theorem does_nothing (fault : Option Framing.Fault) :
    Does settings x.session ⟨[], fault⟩ [] (x.outcome fault) :=
  ⟨rfl, rfl, rfl⟩

theorem does_nothing_of_isEnded (hended : x.session.phase.isEnded = true)
    (hphase : x.session.phase ≠ .ended .finished) (d : Delivery) :
    Does settings x.session d [] (x.outcome none) := by
  have hrun := Session.run_of_isEnded settings x.session d.messages hended
  obtain ⟨e, he⟩ := (Session.Phase.isEnded_iff _).1 hended
  cases e with
  | finished => exact absurd he hphase
  | failed f =>
      refine ⟨?_, ?_, ?_⟩
      · simp [hrun, Effect.none]
      · simp [hrun, Effect.none]
      · rw [outcome, hrun, he]
        rfl

theorem does_last (hlive : x.session.phase.isEnded = false) (m : Message) (rest : List UInt8) :
    Does settings x.session ⟨[m], none⟩ [(x.session.step settings m).1]
      (outcome ⟨(x.session.step settings m).2, rest⟩ none) := by
  refine ⟨rfl, rfl, ?_⟩
  simp [State.run, State.taken, hlive, outcome]

theorem does_cons (hlive : x.session.phase.isEnded = false) {m : Message}
    {d : Delivery} {es : List Effect} (h : Does settings (x.session.step settings m).2 d es o) :
    Does settings x.session (.cons m d) ((x.session.step settings m).1 :: es) o := by
  obtain ⟨hsent, hrecords, ho⟩ := h
  refine ⟨?_, ?_, ?_⟩
  · simp [Framing.Delivery.cons, State.run, hsent]
  · simp [Framing.Delivery.cons, State.run, hrecords]
  · rw [ho]
    simp [Framing.Delivery.cons, State.run, State.taken, hlive]

/-- Only `exit` makes a session end well. -/
theorem isExit_of_step_finished {s : State} {m : Message} (hlink : s.link = .sound)
    (hs : s.phase.isEnded = false) (h : (s.step settings m).2.phase = .ended .finished) :
    m.isExit = true := by
  obtain ⟨p, link⟩ := s
  subst hlink
  have hmove := Session.move_react settings p m hs
  rw [(Session.step_sound settings p m).2] at h
  dsimp only at h
  rw [h] at hmove
  exact hmove.isExit_of_finished

/-- What a run under way does and comes to is what its session does with the messages that
its input delivers, and the outcome of that. -/
theorem Ends.does {pieces : List (List UInt8)} {es : List Effect}
    (h : Ends settings x pieces es o) (hlink : x.session.link = .sound)
    (hphase : x.session.phase ≠ .ended .finished) :
    Does settings x.session (deliver (x.pending ++ pieces.flatten)) es o := by
  induction h with
  | stops pieces hstops =>
      rcases of_turn_stops hstops with ⟨hended, rfl⟩ | ⟨f, hnext, rfl⟩
      · exact does_nothing_of_isEnded hended hphase _
      · rw [Framing.deliver_of_fault (Framing.next_append_of_fault hnext _)]
        exact does_nothing (some f)
  | @takes x y e pieces es o htakes hends ih =>
      obtain ⟨hlive, m, rest, hnext, rfl, rfl⟩ := of_turn_takes htakes
      have hfirst := (Framing.next_append_of_message hnext pieces.flatten).1
      rw [Framing.deliver_of_message hfirst]
      cases hexit : m.isExit with
      | true =>
          -- Behind `exit` the run is over, whatever other bytes there are.
          obtain ⟨rfl, rfl⟩ := hends.of_isEnded (Session.isEnded_step settings _ m hexit)
          exact does_last hlive m rest
      | false =>
          have hlink' : (x.session.step settings m).2.link = .sound := by
            have hsession : x.session = ⟨x.session.phase, .sound⟩ := by rw [← hlink]
            rw [hsession, (Session.step_sound settings _ m).2]
          have hphase' : (x.session.step settings m).2.phase ≠ .ended .finished := by
            intro hfinished
            rw [isExit_of_step_finished hlink hlive hfinished] at hexit
            cases hexit
          exact does_cons hlive (ih hlink' hphase')
  | @reads x o' piece pieces es o hwaits hends ih =>
      have hdone := ih hlink hphase
      rw [feed, List.append_assoc] at hdone
      rwa [List.flatten_cons]
  | starves hwaits =>
      obtain ⟨f, hnext, rfl⟩ := of_turn_waits hwaits
      rw [List.flatten_nil, List.append_nil, Framing.deliver_of_unfinished hnext]
      exact does_nothing f

end Live

/-- The report of a run, from what a run under way has done by its end. -/
theorem serve_of_ends (processId : String) (warning : Option Warning)
    (location : Option Location) {pieces : List (List UInt8)} {es : List Effect}
    {o : Except Failure Unit} (h : Live.Ends settings .start pieces es o) :
    let effects := (State.start .sound).1 :: es
    serve processId settings warning location (deliver pieces.flatten) =
      reportOf settings warning location (effects.flatMap (·.sent))
        (openingRecords processId settings ++ effects.flatMap (·.records) ++ closingRecords o)
        o := by
  intro effects
  obtain ⟨hsent, hrecords, ho⟩ := h.does rfl nofun
  have hsent' : (session settings (deliver pieces.flatten)).sent = effects.flatMap (·.sent) := by
    rw [List.flatMap_cons, hsent]
    rfl
  have hrecords' : (session settings (deliver pieces.flatten)).records =
      effects.flatMap (·.records) := by
    rw [List.flatMap_cons, hrecords]
    rfl
  have ho' : outcome (session settings (deliver pieces.flatten)).ending
      (deliver pieces.flatten).fault (session settings (deliver pieces.flatten)).unread = o :=
    ho.symm
  unfold serve records
  dsimp only
  rw [ho', hsent', hrecords']

end LspAdapter.Program
