import LspAdapter.Config.Sink
/-!
# What reaches a sink

A sink without a limit takes whatever is written to it, in the order in which it is
written.  A sink with room for `n` bytes takes the first `n` of them, wherever the writes
begin and end, and a write that fails is the last.
-/

namespace LspAdapter.Sink

open Text.Utf8 (encode)

theorem extend_nil {s : Sink} {room : Option Nat} (h : s.room = room) : s.extend room [] = s := by
  subst h
  rfl

theorem extend_extend (s : Sink) (room room' : Option Nat) (bytes bytes' : List UInt8) :
    (s.extend room bytes).extend room' bytes' = s.extend room' (bytes ++ bytes') := by
  simp [extend]

theorem put_of_unlimited {s : Sink} (h : s.room = none) (bytes : List UInt8) :
    s.put bytes = (true, s.extend none bytes) := by
  rw [put]
  cases bytes with
  | nil => rw [extend_nil h]; rfl
  | cons b bytes =>
      have hoffer : s.offer (b :: bytes) = some ([], s.extend none (b :: bytes)) := by
        rw [offer, h]
      simp only [hoffer, List.isEmpty_cons, List.length_nil, List.length_cons, Nat.zero_lt_succ]
      rw [if_neg Bool.false_ne_true, if_pos trivial, put]
      rfl

/-- A sink without a limit takes all that is written. -/
theorem putAll_of_unlimited {s : Sink} (h : s.room = none) (ts : List String) :
    s.putAll ts = (true, s.extend none (ts.flatMap encode)) := by
  induction ts generalizing s with
  | nil => rw [List.flatMap_nil, extend_nil h, putAll]
  | cons t ts ih =>
      have hrest := ih (s := s.extend none (encode t)) rfl
      simp only [putAll, put_of_unlimited h, hrest, extend_extend, List.flatMap_cons]

/-- What is put into a sink is cut where the room ends, and the flag tells whether there
was room for all of it. -/
theorem put_of_room {s : Sink} {n : Nat} (h : s.room = some n) (bytes : List UInt8) :
    s.put bytes =
      (decide (bytes.length ≤ n), s.extend (some (n - bytes.length)) (bytes.take n)) := by
  rw [put]
  cases bytes with
  | nil =>
      have hnone : s.extend (some (n - 0)) [] = s := extend_nil h
      rw [List.take_nil, List.length_nil, hnone]
      rfl
  | cons b bytes =>
      rw [List.isEmpty_cons, if_neg Bool.false_ne_true]
      cases n with
      | zero =>
          have hoffer : s.offer (b :: bytes) = none := by
            rw [offer, h]
          rw [hoffer, List.take_zero, Nat.zero_sub, extend_nil h]
          rfl
      | succ n =>
          have hoffer : s.offer (b :: bytes) =
              some ((b :: bytes).drop (n + 1),
                s.extend (some (n + 1 - (b :: bytes).length)) ((b :: bytes).take (n + 1))) := by
            rw [offer, h]
          have hshorter : ((b :: bytes).drop (n + 1)).length < (b :: bytes).length := by
            rw [List.length_drop, List.length_cons]
            omega
          simp only [hoffer, if_pos hshorter]
          -- What is left is offered to a sink that is full, if anything is left.
          rw [put]
          by_cases hroom : (b :: bytes).length ≤ n + 1
          · rw [List.drop_of_length_le hroom, decide_eq_true hroom]
            rfl
          · have hleft : (b :: bytes).drop (n + 1) ≠ [] := by
              rw [Ne, List.drop_eq_nil_iff]
              exact hroom
            have hfull : n + 1 - (b :: bytes).length = 0 := by omega
            rw [if_neg (by rwa [List.isEmpty_iff]), decide_eq_false hroom, hfull]
            rfl

theorem putAll_of_room {s : Sink} {n : Nat} (h : s.room = some n) (ts : List String) :
    s.putAll ts =
      (decide ((ts.flatMap encode).length ≤ n),
        s.extend (some (n - (ts.flatMap encode).length)) ((ts.flatMap encode).take n)) := by
  induction ts generalizing s n with
  | nil =>
      have hnone : s.extend (some (n - 0)) [] = s := extend_nil h
      rw [List.flatMap_nil, List.take_nil, List.length_nil, hnone]
      rfl
  | cons t ts ih =>
      rw [putAll, put_of_room h, List.flatMap_cons, List.length_append, List.take_append]
      by_cases hroom : (encode t).length ≤ n
      · have hrest := ih (s := s.extend (some (n - (encode t).length))
          ((encode t).take n)) rfl
        have hflag : (ts.flatMap encode).length ≤ n - (encode t).length ↔
            (encode t).length + (ts.flatMap encode).length ≤ n := by
          omega
        rw [decide_eq_true hroom]
        simp only [hrest, extend_extend, hflag, Nat.sub_sub]
      · have hflag : ¬(encode t).length + (ts.flatMap encode).length ≤ n := by omega
        have hover : n ≤ (encode t).length := by omega
        have hover' : n ≤ (encode t).length + (ts.flatMap encode).length := by omega
        rw [decide_eq_false hroom, decide_eq_false hflag, Nat.sub_eq_zero_of_le hover,
          Nat.sub_eq_zero_of_le hover', List.take_zero, List.append_nil]

/-- Nothing is written after a write that failed. -/
theorem putAll_of_failed {s : Sink} {before : List String} (h : (s.putAll before).1 = false)
    (more : List String) : s.putAll (before ++ more) = s.putAll before := by
  induction before generalizing s with
  | nil => cases h
  | cons t before ih =>
      rw [List.cons_append, putAll, putAll]
      rw [putAll] at h
      rcases hput : s.put (encode t) with ⟨taken, s'⟩
      rw [hput] at h
      cases taken with
      | true => exact ih h
      | false => rfl

end LspAdapter.Sink
