import LspAdapter.ClientLog
import Mathlib.Data.List.Basic
import Mathlib.Data.List.Induction
/-!
# What a logger forwards

Operations on a logger leave two things behind: the level of the last logger, and
whether the client still receives.  With these an operation can be judged by what was
done before it (`due`), and a whole run place by place (`run_eq_mapIdx`).  What reaches
the client and what fails are then read off the run (`delivered_eq`, `failing_eq`).

Under two levels the same operations are judged by the same things done before them, so
what the stricter level lets through is a part of what the laxer one does
(`filter_within_of_le`).
-/

namespace LspAdapter.ClientLog

/-! ## What is due -/

def Operation.newLevel? : Operation → Option LogLevel
  | .relevel level => some level
  | _ => none

def levelAfter (level : LogLevel) (ops : List Operation) : LogLevel :=
  (ops.filterMap Operation.newLevel?).getLast?.getD level

/-- An operation that sends a text no less grave than a level. -/
def Operation.Within (level : LogLevel) : Operation → Prop
  | .log severity _ => severity ≤ level
  | _ => False

instance (level : LogLevel) (op : Operation) : Decidable (op.Within level) :=
  match op with
  | .log severity _ => inferInstanceAs (Decidable (severity ≤ level))
  | .relevel _ => inferInstanceAs (Decidable False)
  | .close => inferInstanceAs (Decidable False)

def Operation.notice? : Operation → Option Notification
  | .log severity text =>
    some ⟨"window/logMessage",
      .object [("message", .text text), ("type", .int severity.number)]⟩
  | _ => none

theorem Operation.Within.exists_notice {level : LogLevel} {op : Operation}
    (h : op.Within level) : ∃ n, op.notice? = some n := by
  cases op with
  | log severity text => exact ⟨_, rfl⟩
  | relevel _ => exact h.elim
  | close => exact h.elim

theorem Operation.Within.mono {level level' : LogLevel} {op : Operation} (h : op.Within level)
    (hle : level ≤ level') : op.Within level' := by
  cases op with
  | log severity text => exact Nat.le_trans h hle
  | relevel _ => exact h
  | close => exact h

/-- What an operation has to bring about behind others: its text is sent if it is grave
enough for the level of that moment, and sending fails once the client is gone. -/
def due (level : LogLevel) (before : List Operation) (op : Operation) : Outcome where
  level := levelAfter level (before ++ [op])
  sent :=
    if .close ∉ before ∧ op.Within (levelAfter level before) then op.notice?.toList else []
  failed := decide (.close ∈ before ∧ op.Within (levelAfter level before))

theorem levelAfter_snoc (level : LogLevel) (ops : List Operation) (op : Operation) :
    levelAfter level (ops ++ [op]) = op.newLevel?.getD (levelAfter level ops) := by
  rw [levelAfter, List.filterMap_append, List.getLast?_append]
  cases op <;> rfl

theorem levelAfter_of_forall {level : LogLevel} {ops : List Operation}
    (h : ∀ op ∈ ops, op.newLevel? = none) : levelAfter level ops = level := by
  rw [levelAfter, List.filterMap_eq_nil_iff.mpr h]
  rfl

/-! ## Runs -/

def State.after (s : State) (ops : List Operation) : State :=
  ops.foldl (fun s op => (s.step op).1) s

theorem run_cons (s : State) (op : Operation) (ops : List Operation) :
    s.run (op :: ops) = (s.step op).2 :: (s.step op).1.run ops :=
  rfl

theorem after_cons (s : State) (op : Operation) (ops : List Operation) :
    s.after (op :: ops) = (s.step op).1.after ops :=
  rfl

theorem run_append (s : State) (ops ops' : List Operation) :
    s.run (ops ++ ops') = s.run ops ++ (s.after ops).run ops' := by
  induction ops generalizing s with
  | nil => rfl
  | cons op ops ih => rw [List.cons_append, run_cons, run_cons, ih, after_cons, List.cons_append]

@[simp] theorem length_run (s : State) (ops : List Operation) :
    (s.run ops).length = ops.length := by
  induction ops generalizing s with
  | nil => rfl
  | cons op ops ih => rw [run_cons, List.length_cons, ih, List.length_cons]

/-- An operation is carried out as is due behind those before it, and leaves behind what
they do together. -/
theorem step_eq (level : LogLevel) (before : List Operation) (op : Operation) :
    State.step ⟨levelAfter level before, decide (.close ∉ before)⟩ op =
      (⟨levelAfter level (before ++ [op]), decide (.close ∉ before ++ [op])⟩,
        due level before op) := by
  rw [due, levelAfter_snoc]
  cases op with
  | log severity text =>
      by_cases hw : severity ≤ levelAfter level before <;> by_cases hc : .close ∈ before <;>
        simp [State.step, LogLevel.forward?, LogLevel.admits, logMessage, Operation.Within,
          Operation.notice?, Operation.newLevel?, hw, hc]
  | relevel next => simp [State.step, Operation.Within, Operation.newLevel?]
  | close => simp [State.step, Operation.Within, Operation.newLevel?]

theorem state_after (level : LogLevel) (ops : List Operation) :
    (State.start level).after ops = ⟨levelAfter level ops, decide (.close ∉ ops)⟩ := by
  -- On the last operation, as it is what the operations leave behind that is asked for.
  induction ops using List.reverseRecOn with
  | nil => rfl
  | append_singleton ops op ih =>
      have hstep : (State.start level).after (ops ++ [op]) =
          (((State.start level).after ops).step op).1 := by
        rw [State.after, List.foldl_concat]
        rfl
      rw [hstep, ih, step_eq]

/-- Each operation of a run does what is due behind those before it. -/
theorem run_eq_mapIdx (level : LogLevel) (ops : List Operation) :
    (State.start level).run ops = ops.mapIdx fun i op => due level (ops.take i) op := by
  apply List.ext_getElem?
  intro i
  rw [List.getElem?_mapIdx]
  by_cases hi : i < ops.length
  · have hsplit : ops = ops.take i ++ ops[i] :: ops.drop (i + 1) := by simp
    have hlength : ((State.start level).run (ops.take i)).length = i := by
      rw [length_run, List.length_take, Nat.min_eq_left (Nat.le_of_lt hi)]
    have hrun : (State.start level).run ops =
        (State.start level).run (ops.take i) ++
          (((State.start level).after (ops.take i)).run (ops[i] :: ops.drop (i + 1))) := by
      rw [← run_append, ← hsplit]
    rw [hrun, List.getElem?_append_right (Nat.le_of_eq hlength), hlength, Nat.sub_self,
      run_cons, List.getElem?_cons_zero, state_after, step_eq, List.getElem?_eq_getElem hi]
    rfl
  · have hge : ops.length ≤ i := Nat.le_of_not_lt hi
    rw [List.getElem?_eq_none hge, List.getElem?_eq_none (by rwa [length_run])]
    rfl

/-- An operation that fails leaves everything as it was. -/
theorem step_of_failed {s : State} {op : Operation} (h : (s.step op).2.failed = true) :
    (s.step op).1 = s ∧ (s.step op).2.sent = [] ∧ (s.step op).2.level = s.level := by
  cases op with
  | log severity text =>
      rw [State.step] at h ⊢
      cases hf : s.level.forward? severity text with
      | none => exact ⟨rfl, rfl, rfl⟩
      | some n =>
          cases hc : s.connected with
          | true => simp [hf, hc] at h
          | false => exact ⟨rfl, rfl, rfl⟩
  | relevel level => exact absurd h Bool.false_ne_true
  | close => exact absurd h Bool.false_ne_true

/-- An operation that fails can be left out of a run: all others do what they did. -/
theorem run_eraseIdx_of_failed {s : State} {ops : List Operation} {i : Nat} {outcome : Outcome}
    (hi : (s.run ops)[i]? = some outcome) (hfailed : outcome.failed = true) :
    outcome.sent = [] ∧ outcome.level = (s.after (ops.take i)).level ∧
      s.run (ops.eraseIdx i) = (s.run ops).eraseIdx i := by
  induction ops generalizing s i with
  | nil => exact absurd hi (by simp)
  | cons op ops ih =>
      rw [run_cons] at hi ⊢
      cases i with
      | zero =>
          rw [List.getElem?_cons_zero] at hi
          obtain rfl := Option.some.inj hi
          obtain ⟨hstate, hsent, hlevel⟩ := step_of_failed hfailed
          rw [List.eraseIdx_cons_zero, List.eraseIdx_cons_zero, hstate]
          exact ⟨hsent, hlevel, rfl⟩
      | succ i =>
          rw [List.getElem?_cons_succ] at hi
          obtain ⟨hsent, hlevel, herase⟩ := ih hi
          rw [List.eraseIdx_cons_succ, List.eraseIdx_cons_succ, run_cons, herase]
          exact ⟨hsent, hlevel, rfl⟩

/-! ## What reaches the client and what fails -/

def State.sift (s : State) (p : Outcome → Bool) (ops : List Operation) : List Operation :=
  ((ops.zip (s.run ops)).filter fun q => p q.2).map Prod.fst

def State.delivered (s : State) (ops : List Operation) : List Operation :=
  s.sift (fun outcome => !outcome.sent.isEmpty) ops

def State.failing (s : State) (ops : List Operation) : List Operation :=
  s.sift Outcome.failed ops

theorem sift_cons (s : State) (p : Outcome → Bool) (op : Operation) (ops : List Operation) :
    s.sift p (op :: ops) =
      (if p (s.step op).2 then [op] else []) ++ (s.step op).1.sift p ops := by
  rw [State.sift, run_cons, List.zip_cons_cons, List.filter_cons]
  cases p (s.step op).2 <;> rfl

theorem sift_eq (level : LogLevel) (p : Outcome → Bool) (ops : List Operation) :
    (State.start level).sift p ops =
      (ops.zipIdx.filter fun q => p (due level (ops.take q.2) q.1)).map Prod.fst := by
  have hzip : ops.zip ((State.start level).run ops) =
      ops.zipIdx.map fun q => (q.1, due level (ops.take q.2) q.1) := by
    rw [run_eq_mapIdx]
    apply List.ext_getElem <;> simp
  rw [State.sift, hzip, List.filter_map, List.map_map]
  rfl

/-- What is sent is the texts of the operations that reach the client. -/
theorem flatMap_sent (s : State) (ops : List Operation) :
    (s.run ops).flatMap Outcome.sent = (s.delivered ops).filterMap Operation.notice? := by
  induction ops generalizing s with
  | nil => rfl
  | cons op ops ih =>
      have hstep : (s.step op).2.sent =
          (if !(s.step op).2.sent.isEmpty then [op] else []).filterMap Operation.notice? := by
        cases op with
        | log severity text =>
            by_cases hw : severity ≤ s.level <;> cases hc : s.connected <;>
              simp [State.step, LogLevel.forward?, LogLevel.admits, logMessage,
                Operation.notice?, hw, hc]
        | relevel level => rfl
        | close => rfl
      rw [run_cons, List.flatMap_cons, ih, State.delivered, State.delivered, sift_cons,
        List.filterMap_append, ← hstep]

/-- The operations that reach the client are those that were grave enough at their moment,
while there was a client. -/
theorem delivered_eq (level : LogLevel) (ops : List Operation) :
    (State.start level).delivered ops =
      (ops.zipIdx.filter fun q =>
        .close ∉ ops.take q.2 ∧ q.1.Within (levelAfter level (ops.take q.2))).map Prod.fst := by
  rw [State.delivered, sift_eq]
  congr 2
  funext q
  by_cases h : .close ∉ ops.take q.2 ∧ q.1.Within (levelAfter level (ops.take q.2))
  · obtain ⟨n, hn⟩ := h.2.exists_notice
    simp [due, h, hn]
  · rw [due, if_neg h, decide_eq_false h]
    rfl

theorem failing_eq (level : LogLevel) (ops : List Operation) :
    (State.start level).failing ops =
      (ops.zipIdx.filter fun q =>
        .close ∈ ops.take q.2 ∧ q.1.Within (levelAfter level (ops.take q.2))).map Prod.fst :=
  sift_eq level Outcome.failed ops

/-! ## Two loggers of different levels -/

/-- Unless operations set the level themselves, those that a stricter level lets through
are the grave ones among those that a laxer level lets through. -/
theorem filter_within_of_le {level level' : LogLevel} (hle : level ≤ level')
    {ops : List Operation} (hops : ∀ op ∈ ops, op.newLevel? = none) (c : Nat → Bool) :
    (ops.zipIdx.filter fun q =>
        c q.2 ∧ q.1.Within (levelAfter level (ops.take q.2))).map Prod.fst =
      ((ops.zipIdx.filter fun q =>
        c q.2 ∧ q.1.Within (levelAfter level' (ops.take q.2))).map Prod.fst).filter
          fun op => op.Within level := by
  have hlevel (l : LogLevel) (i : Nat) : levelAfter l (ops.take i) = l :=
    levelAfter_of_forall fun op hop => hops op (List.mem_of_mem_take hop)
  rw [List.filter_map, List.filter_filter]
  congr 2
  funext q
  by_cases h : q.1.Within level
  · simp [hlevel, h, h.mono hle]
  · simp [hlevel, h]

/-! ## The run of a logger -/

/-- A logger over any operations.

* What reaches the client is the texts of the operations that are no less grave than the
  level of their moment, from before the close, in order and once each.
* The operations that fail are those from behind the close that are no less grave than the
  level of their moment. Such an operation sends nothing and leaves the level, and without
  it all others would do the same.
* Under a stricter level the same operations, as long as none sets the level, deliver and
  fail as under a laxer one, less those that are not grave enough for the stricter. -/
theorem operations_forwarded (level : LogLevel) (ops : List Operation) :
    (((State.start level).run ops).flatMap Outcome.sent =
        ((State.start level).delivered ops).filterMap Operation.notice? ∧
      (State.start level).delivered ops =
        (ops.zipIdx.filter fun q => .close ∉ ops.take q.2 ∧
          q.1.Within (levelAfter level (ops.take q.2))).map Prod.fst) ∧
    (((State.start level).run ops).map Outcome.failed =
        (ops.mapIdx fun i op => decide (.close ∈ ops.take i ∧
          op.Within (levelAfter level (ops.take i)))) ∧
      ∀ i outcome, ((State.start level).run ops)[i]? = some outcome → outcome.failed = true →
        outcome.sent = [] ∧ outcome.level = levelAfter level (ops.take i) ∧
          (State.start level).run (ops.eraseIdx i) =
            ((State.start level).run ops).eraseIdx i) ∧
    ∀ level', level ≤ level' → (∀ op ∈ ops, op.newLevel? = none) →
      (State.start level).delivered ops =
          ((State.start level').delivered ops).filter (fun op => op.Within level) ∧
        (State.start level).failing ops =
          ((State.start level').failing ops).filter (fun op => op.Within level) := by
  refine ⟨⟨flatMap_sent _ ops, delivered_eq level ops⟩, ⟨?_, ?_⟩, ?_⟩
  · rw [run_eq_mapIdx]
    apply List.ext_getElem <;> simp [due]
  · intro i outcome hi hfailed
    have h := run_eraseIdx_of_failed hi hfailed
    rwa [state_after] at h
  · intro level' hle hops
    rw [delivered_eq, delivered_eq, failing_eq, failing_eq]
    constructor
    · simpa using filter_within_of_le hle hops fun i => decide (.close ∉ ops.take i)
    · simpa using filter_within_of_le hle hops fun i => decide (.close ∈ ops.take i)

/-- A text behind the close fails if it is grave enough, and only then. -/
example :
    ((State.start .warn).run [.log .warn "a", .log .info "b", .close, .log .info "c",
      .log .error "d"]).map (fun outcome => (outcome.sent.length, outcome.failed)) =
      [(1, false), (0, false), (0, false), (0, false), (0, true)] := by
  decide

end LspAdapter.ClientLog
