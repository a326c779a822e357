import LspAdapter.Framing.Delivery
/-!
# Frames at the front of a stream

What is known of the next frame from the bytes that are there does not change when more of
them come, unless the frame was not finished.  Each frame takes some bytes, so what a stream
delivers is what its first frame does and what the bytes behind it deliver.

* `readHeaders_cons` — one byte of the headers decides them or leaves them open;
* `next_append_of_message`, `next_append_of_fault` — what is known stays;
* `deliver_of_message` — the delivery of a stream, frame by frame.
-/

namespace LspAdapter.Framing

variable {bytes rest : List UInt8} {f : Fault}

/-! ## Headers -/

/-- Whatever follows it, a byte leaves the headers open, is at fault or completes them. -/
theorem readHeaders_cons (line : List UInt8) (length : Option Nat) (b : UInt8) :
    (∃ line' length', ∀ bs, readHeaders line length (b :: bs) = readHeaders line' length' bs) ∨
      (∃ f, ∀ bs, readHeaders line length (b :: bs) = .fault f) ∨
        ∃ n, ∀ bs, readHeaders line length (b :: bs) = .complete n bs := by
  simp only [readHeaders]
  by_cases hb : b = lineFeed
  · simp only [if_pos hb]
    cases Header.ofBytes (b :: line).reverse with
    | error f => exact .inr (.inl ⟨f, fun _ => rfl⟩)
    | ok header =>
        cases header with
        | length n => exact .inl ⟨[], some n, fun _ => rfl⟩
        | other => exact .inl ⟨[], length, fun _ => rfl⟩
        | blank =>
            cases length with
            | none => exact .inr (.inl ⟨.noLength, fun _ => rfl⟩)
            | some n => exact .inr (.inr ⟨n, fun _ => rfl⟩)
  · simp only [if_neg hb]
    exact .inl ⟨b :: line, length, fun _ => rfl⟩

theorem readHeaders_append_of_complete {line : List UInt8} {length : Option Nat} {n : Nat}
    (h : readHeaders line length bytes = .complete n rest) (more : List UInt8) :
    readHeaders line length (bytes ++ more) = .complete n (rest ++ more) := by
  induction bytes generalizing line length with
  | nil => cases h
  | cons b bs ih =>
      rw [List.cons_append]
      rcases readHeaders_cons line length b with ⟨line', length', hopen⟩ | ⟨f, hfault⟩ | ⟨n', hend⟩
      · rw [hopen] at h ⊢
        exact ih h
      · rw [hfault] at h
        cases h
      · rw [hend] at h ⊢
        cases h
        rfl

theorem readHeaders_append_of_fault {line : List UInt8} {length : Option Nat}
    (h : readHeaders line length bytes = .fault f) (more : List UInt8) :
    readHeaders line length (bytes ++ more) = .fault f := by
  induction bytes generalizing line length with
  | nil => cases h
  | cons b bs ih =>
      rw [List.cons_append]
      rcases readHeaders_cons line length b with ⟨line', length', hopen⟩ | ⟨f, hfault⟩ | ⟨n, hend⟩
      · rw [hopen] at h ⊢
        exact ih h
      · rw [hfault] at h ⊢
        exact h
      · rw [hend] at h
        cases h

theorem length_lt_of_readHeaders {line : List UInt8} {length : Option Nat} {n : Nat}
    (h : readHeaders line length bytes = .complete n rest) : rest.length < bytes.length := by
  induction bytes generalizing line length with
  | nil => cases h
  | cons b bs ih =>
      rw [List.length_cons]
      rcases readHeaders_cons line length b with ⟨line', length', hopen⟩ | ⟨f, hfault⟩ | ⟨n', hend⟩
      · rw [hopen] at h
        exact Nat.lt_succ_of_lt (ih h)
      · rw [hfault] at h
        cases h
      · rw [hend] at h
        cases h
        exact Nat.lt_succ_self _

/-! ## Frames -/

/-- The payload decides what a frame is, and the bytes behind it are not looked at. -/
theorem ofPayload_eq (payload : List UInt8) :
    (∃ m, ∀ rest, Frame.ofPayload payload rest = .message m rest) ∨
      ∃ f, ∀ rest, Frame.ofPayload payload rest = .fault f := by
  unfold Frame.ofPayload
  cases Text.Utf8.decode? payload with
  | none => exact .inr ⟨_, fun _ => rfl⟩
  | some text =>
      dsimp only
      cases readPayload text with
      | ok m => exact .inl ⟨m, fun _ => rfl⟩
      | error f => exact .inr ⟨_, fun _ => rfl⟩

/-- What the bytes tell of the next frame does not depend on those that come behind them,
unless they end before the frame does. -/
theorem next_cases (bytes : List UInt8) :
    (∃ f, ∀ more, Frame.next (bytes ++ more) = .fault f) ∨
      (∃ m rest, rest.length < bytes.length ∧
        ∀ more, Frame.next (bytes ++ more) = .message m (rest ++ more)) ∨
      ∃ f, Frame.next bytes = .unfinished f := by
  unfold Frame.next
  cases hheaders : readHeaders [] none bytes with
  | unfinished f => exact .inr (.inr ⟨f, rfl⟩)
  | fault f =>
      refine .inl ⟨f, fun more => ?_⟩
      rw [readHeaders_append_of_fault hheaders]
  | complete n rest =>
      have hlt := length_lt_of_readHeaders hheaders
      have hmore := readHeaders_append_of_complete hheaders
      simp only [hmore]
      by_cases hexcessive : excessiveLength ≤ n
      · simp only [if_pos hexcessive]
        exact .inl ⟨.excessiveLength, fun _ => rfl⟩
      · simp only [if_neg hexcessive]
        by_cases hn : n ≤ rest.length
        · have hcut : ∀ more : List UInt8, n ≤ (rest ++ more).length := fun more => by
            rw [List.length_append]
            omega
          have hdrop : (rest.drop n).length < bytes.length := by
            rw [List.length_drop]
            omega
          simp only [if_pos (hcut _), List.take_append_of_le_length hn,
            List.drop_append_of_le_length hn]
          rcases ofPayload_eq (rest.take n) with ⟨m, hm⟩ | ⟨f, hf⟩
          · exact .inr (.inl ⟨m, rest.drop n, hdrop, fun more => hm _⟩)
          · exact .inl ⟨f, fun more => hf _⟩
        · exact .inr (.inr ⟨_, if_neg hn⟩)

theorem next_append_of_fault (h : Frame.next bytes = .fault f) (more : List UInt8) :
    Frame.next (bytes ++ more) = .fault f := by
  rcases next_cases bytes with ⟨f', hfault⟩ | ⟨m, rest, -, hmessage⟩ | ⟨f', hopen⟩
  · have hnow := hfault []
    rw [List.append_nil, h] at hnow
    rw [hnow, hfault]
  · have hnow := hmessage []
    rw [List.append_nil, h] at hnow
    cases hnow
  · rw [h] at hopen
    cases hopen

theorem next_append_of_message {m : Message} (h : Frame.next bytes = .message m rest)
    (more : List UInt8) :
    Frame.next (bytes ++ more) = .message m (rest ++ more) ∧ rest.length < bytes.length := by
  rcases next_cases bytes with ⟨f, hfault⟩ | ⟨m', rest', hlt, hmessage⟩ | ⟨f, hopen⟩
  · have hnow := hfault []
    rw [List.append_nil, h] at hnow
    cases hnow
  · have hnow := hmessage []
    rw [List.append_nil, List.append_nil, h] at hnow
    cases hnow
    exact ⟨hmessage more, hlt⟩
  · rw [h] at hopen
    cases hopen

/-! ## Deliveries -/

theorem deliver_of_fault (h : Frame.next bytes = .fault f) : deliver bytes = ⟨[], some f⟩ := by
  rw [deliver, h]

theorem deliver_of_unfinished {f : Option Fault} (h : Frame.next bytes = .unfinished f) :
    deliver bytes = ⟨[], f⟩ := by
  rw [deliver, h]

theorem deliver_of_message {m : Message} (h : Frame.next bytes = .message m rest) :
    deliver bytes = if m.isExit then ⟨[m], none⟩ else .cons m (deliver rest) := by
  have hlt := (next_append_of_message h []).2
  rw [deliver, h]
  simp only [if_pos hlt]

end LspAdapter.Framing
