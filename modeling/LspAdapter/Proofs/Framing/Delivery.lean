import LspAdapter.Framing.Delivery
import LspAdapter.Proofs.Text.Utf8
/-!
# What is delivered up to `exit`, and what is written for a message

Nothing is read behind the first notification `exit`, so in a delivery that ends
there `exit` is the last message and no fault shows.  What a stream delivers ends
there already.
-/

namespace LspAdapter.Framing

/-- A message in its frame, as a text: how many bytes its wire text takes, an empty line,
and the wire text. -/
def frameText (m : Message) : String :=
  "Content-Length: " ++ toString m.wire.utf8ByteSize ++ "\r\n\r\n" ++ m.wire

theorem frameOf_eq (m : Message) : frameOf m = (frameText m).toUTF8.data.toList := by
  unfold frameOf frameText
  rw [Text.Utf8.toUTF8_eq_encode, Text.Utf8.utf8ByteSize_eq_length_encode,
    Text.Utf8.encode_append _ m.wire]

namespace Delivery

variable (fault : Option Fault)

@[simp] theorem untilExit_nil : untilExit fault [] = ⟨[], fault⟩ := rfl

theorem untilExit_cons (m : Message) (ms : List Message) :
    untilExit fault (m :: ms) =
      if m.isExit then ⟨[m], none⟩ else .cons m (untilExit fault ms) := rfl

/-- Only a fault in front of every `exit` shows. -/
theorem untilExit_fault_eq_none_iff (ms : List Message) :
    (untilExit fault ms).fault = none ↔ fault = none ∨ ∃ m ∈ ms, m.isExit = true := by
  induction ms with
  | nil => simp
  | cons m ms ih =>
      rw [untilExit_cons]
      cases hm : m.isExit with
      | true => simp [hm]
      | false => simpa [hm, cons] using ih

/-- Nothing is delivered behind `exit`. -/
theorem untilExit_eq_append_exit {ms before rest : List Message} {m : Message}
    (h : (untilExit fault ms).messages = before ++ m :: rest) (hm : m.isExit = true) :
    rest = [] := by
  induction ms generalizing before with
  | nil => simp at h
  | cons m' ms ih =>
      rw [untilExit_cons] at h
      cases hm' : m'.isExit with
      | true =>
          rw [hm', if_pos rfl] at h
          cases before with
          | nil => exact (List.cons.inj h).2.symm
          | cons b before => simp at h
      | false =>
          rw [hm', if_neg (by decide)] at h
          cases before with
          | nil =>
              have hhead : m' = m := (List.cons.inj h).1
              rw [hhead, hm] at hm'
              cases hm'
          | cons b before => exact ih (List.cons.inj h).2

/-- Messages that are not delivered come behind an `exit` that is. -/
theorem exists_undelivered (ms : List Message) :
    ∃ rest, ms = (untilExit fault ms).messages ++ rest ∧
      (rest = [] ∨ ∃ m ∈ (untilExit fault ms).messages, m.isExit = true) := by
  induction ms with
  | nil => exact ⟨[], rfl, .inl rfl⟩
  | cons m ms ih =>
      rw [untilExit_cons]
      cases hm : m.isExit with
      | true => exact ⟨ms, rfl, .inr ⟨m, by simp, hm⟩⟩
      | false =>
          obtain ⟨rest, hrest, hexit⟩ := ih
          refine ⟨rest, congrArg (m :: ·) hrest, hexit.imp_right ?_⟩
          rintro ⟨m', hm', hexit⟩
          exact ⟨m', List.mem_cons_of_mem m hm', hexit⟩

/-- What a stream delivers ends with the first `exit` already. -/
theorem untilExit_deliver (bytes : List UInt8) :
    untilExit (deliver bytes).fault (deliver bytes).messages = deliver bytes := by
  induction bytes using deliver.induct with
  | case1 bytes f hf =>
      rw [deliver, hf]
      rfl
  | case2 bytes f hf =>
      rw [deliver, hf]
      rfl
  | case3 bytes m rest hf hm =>
      rw [deliver, hf]
      simp [hm, untilExit_cons]
  | case4 bytes m rest hf hm hlt ih =>
      rw [deliver, hf]
      simp only [hm, if_false, hlt, if_true, cons, untilExit_cons, ih, Bool.false_eq_true]
  | case5 bytes m rest hf hm hlt =>
      rw [deliver, hf]
      simp [hm, hlt, untilExit_cons, cons]

end Delivery

end LspAdapter.Framing
