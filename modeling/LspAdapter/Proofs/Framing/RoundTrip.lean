import LspAdapter.Proofs.Framing.Delivery
import LspAdapter.Proofs.Framing.Prefix
import LspAdapter.Proofs.Json.Scalars
/-!
# Frames are read back

A frame that is written is cut off at its end again, whatever follows it, and its payload is
the wire text of its message.  So if messages can be read from their wire texts, a stream of
their frames delivers them.

* `readCount_toDigits` — the count in a header;
* `readHeaders_frame` — the headers of a frame;
* `next_frameOf`, `deliver_frames` — one frame, and a stream of them.
-/

namespace LspAdapter.Framing

open Text.Utf8 (decode? encode)

/-! ## The count -/

theorem readDigits_eq {n : Nat} {ds : List Char} (hdigits : ∀ d ∈ ds, d.isDigit = true)
    (h : Nat.ofDigitChars 10 ds n < 0x10000000000000000) :
    readDigits n ds = .ok (Nat.ofDigitChars 10 ds n) := by
  induction ds generalizing n with
  | nil => rfl
  | cons d ds ih =>
      rw [Nat.ofDigitChars_cons] at h ⊢
      have hle := Json.le_ofDigitChars ds (10 * n + (d.toNat - '0'.toNat))
      have hlt : 10 * n + (d.toNat - '0'.toNat) < 0x10000000000000000 := Nat.lt_of_le_of_lt hle h
      rw [readDigits, if_pos (hdigits d List.mem_cons_self)]
      dsimp only
      rw [if_pos hlt]
      exact ih (fun c hc => hdigits c (List.mem_cons_of_mem d hc)) h

theorem readCount_toDigits {n : Nat} (h : n < 0x10000000000000000) :
    readCount (Nat.toDigits 10 n) = .ok n := by
  have hdigits : ∀ c ∈ Nat.toDigits 10 n, c.isDigit = true := fun c hc =>
    Nat.isDigit_of_mem_toDigits (by decide) (by decide) hc
  have hvalue : Nat.ofDigitChars 10 (Nat.toDigits 10 n) 0 = n := Nat.ofDigitChars_ten_toDigits
  have hread := readDigits_eq (n := 0) hdigits (by rwa [hvalue])
  rw [hvalue] at hread
  obtain ⟨d, ds, heq, hd, -⟩ := Json.exists_head_toDigits n
  rw [heq] at hread ⊢
  unfold readCount
  split
  case h_1 hnil => cases hnil
  case h_2 hplus =>
      rw [(List.cons.inj hplus).1] at hd
      cases hd
  case h_3 hplus =>
      rw [(List.cons.inj hplus).1] at hd
      cases hd
  case h_4 => exact hread

/-! ## Lines -/

/-- A byte that ends a line comes of the character that does. -/
theorem eq_of_lineFeed_mem {c : Char} (h : lineFeed ∈ String.utf8EncodeChar c) : c = '\n' := by
  have hsequence := Text.Utf8.sequence_encodeChar c
  generalize String.utf8EncodeChar c = bs at h hsequence
  cases hsequence with
  | one a ha =>
      rw [List.mem_singleton] at h
      rw [← h]
      decide
  | two a b ha ha' hb hb' =>
      simp only [List.mem_cons, List.not_mem_nil, or_false] at h
      rcases h with rfl | rfl <;> contradiction
  | three a b c ha ha' hb hb' hc hc' =>
      have hb₀ : 0x80 ≤ b.toNat := by split at hb <;> omega
      simp only [List.mem_cons, List.not_mem_nil, or_false] at h
      rcases h with rfl | rfl | rfl <;> contradiction
  | four a b c d ha ha' hb hb' hc hc' hd hd' =>
      have hb₀ : 0x80 ≤ b.toNat := by split at hb <;> omega
      simp only [List.mem_cons, List.not_mem_nil, or_false] at h
      rcases h with rfl | rfl | rfl | rfl <;> contradiction

theorem lineFeed_not_mem_encode {s : String} (h : '\n' ∉ s.toList) : lineFeed ∉ encode s := by
  rw [encode, List.mem_flatMap]
  rintro ⟨c, hc, hmem⟩
  exact h (eq_of_lineFeed_mem hmem ▸ hc)

theorem readHeaders_line {bs : List UInt8} (h : lineFeed ∉ bs) (line : List UInt8)
    (length : Option Nat) (rest : List UInt8) :
    readHeaders line length (bs ++ lineFeed :: rest) =
      readHeaders (bs.reverse ++ line) length (lineFeed :: rest) := by
  induction bs generalizing line with
  | nil => rfl
  | cons b bs ih =>
      rw [List.mem_cons, not_or] at h
      rw [List.cons_append, List.reverse_cons, List.append_assoc]
      simp only [readHeaders, if_neg (Ne.symm h.1)]
      exact ih h.2 (b :: line)

/-- A line that says something, its end included. -/
theorem ofBytes_encode (s : String) :
    Header.ofBytes (encode (s ++ "\r\n")) = Header.ofLine s.toList := by
  have hline : (s ++ "\r\n").toList.reverse = '\n' :: '\r' :: s.toList.reverse := by
    rw [String.toList_append, List.reverse_append]
    rfl
  rw [Header.ofBytes, Text.Utf8.decode?_encode]
  simp only [hline, List.reverse_reverse]

/-! ## Headers -/

theorem ofLine_length {n : Nat} (h : n < 0x10000000000000000) :
    Header.ofLine ("Content-Length: " ++ toString n).toList = .ok (.length n) := by
  have htext : ("Content-Length: " ++ toString n).toList =
      "Content-Length: ".toList ++ Nat.toDigits 10 n := by
    rw [String.toList_append, Nat.toString_eq_ofList_toDigits,
      @String.toList_ofList (Nat.toDigits 10 n)]
  have hsplit : splitHeader ("Content-Length: ".toList ++ Nat.toDigits 10 n) =
      some ("Content-Length".toList, Nat.toDigits 10 n) := rfl
  rw [htext, Header.ofLine, hsplit]
  dsimp only
  rw [readCount_toDigits h]
  rfl

theorem readHeaders_of_length {s : String} {n : Nat} (hs : '\n' ∉ s.toList)
    (h : Header.ofLine s.toList = .ok (.length n)) (length : Option Nat) (rest : List UInt8) :
    readHeaders [] length (encode (s ++ "\r\n") ++ rest) = readHeaders [] (some n) rest := by
  have hline : encode (s ++ "\r\n") = encode (s ++ "\r") ++ [lineFeed] := by
    rw [Text.Utf8.encode_append, Text.Utf8.encode_append, List.append_assoc]
    rfl
  have hopen : lineFeed ∉ encode (s ++ "\r") := by
    apply lineFeed_not_mem_encode
    rw [String.toList_append, List.mem_append, not_or]
    exact ⟨hs, by decide⟩
  have hend : Header.ofBytes (lineFeed :: ((encode (s ++ "\r")).reverse ++ [])).reverse =
      .ok (.length n) := by
    rw [List.append_nil, List.reverse_cons, List.reverse_reverse, ← hline, ofBytes_encode, h]
  rw [hline, List.append_assoc, List.singleton_append, readHeaders_line hopen]
  simp only [readHeaders, if_pos, hend]

theorem readHeaders_blank (n : Nat) (rest : List UInt8) :
    readHeaders [] (some n) (encode "\r\n" ++ rest) = .complete n rest := rfl

theorem readHeaders_frame {n : Nat} (h : n < 0x10000000000000000) (rest : List UInt8) :
    readHeaders [] none (encode ("Content-Length: " ++ toString n ++ "\r\n\r\n") ++ rest) =
      .complete n rest := by
  have hdigits : '\n' ∉ (toString n).toList := by
    rw [Nat.toString_eq_ofList_toDigits, String.toList_ofList]
    intro hmem
    have hdigit := Nat.isDigit_of_mem_toDigits (b := 10) (by decide) (by decide) hmem
    exact absurd hdigit (by decide)
  have hs : '\n' ∉ ("Content-Length: " ++ toString n).toList := by
    rw [String.toList_append, List.mem_append, not_or]
    exact ⟨by decide, hdigits⟩
  have hlines : "\r\n\r\n" = "\r\n" ++ "\r\n" := rfl
  rw [hlines, ← String.append_assoc, Text.Utf8.encode_append, List.append_assoc,
    readHeaders_of_length hs (ofLine_length h), readHeaders_blank]

/-! ## Frames -/

variable {m : Message}

/-- Whether a message can be read from its wire text, which is not beyond all memory. -/
structure Readable (m : Message) : Prop where
  payload : readPayload m.wire = .ok m
  length : (encode m.wire).length < excessiveLength

theorem next_frameOf (h : Readable m) (rest : List UInt8) :
    Frame.next (frameOf m ++ rest) = .message m rest := by
  have hlength := h.length
  unfold excessiveLength at hlength
  have hheaders := readHeaders_frame (n := (encode m.wire).length) (by omega)
    (encode m.wire ++ rest)
  unfold frameOf
  rw [List.append_assoc]
  unfold Frame.next
  rw [hheaders]
  dsimp only
  rw [if_neg (Nat.not_le.2 h.length), List.take_left, List.drop_left, if_pos (by simp)]
  rw [Frame.ofPayload, Text.Utf8.decode?_encode]
  dsimp only
  rw [h.payload]

/-- A stream of frames delivers their messages up to the first `exit`. -/
theorem deliver_frames {ms : List Message} (h : ∀ m ∈ ms, Readable m) :
    deliver (ms.flatMap frameOf) = .untilExit none ms := by
  induction ms with
  | nil => exact deliver_of_unfinished rfl
  | cons m ms ih =>
      have hnext := next_frameOf (h m List.mem_cons_self) (ms.flatMap frameOf)
      rw [List.flatMap_cons, deliver_of_message hnext, Delivery.untilExit_cons,
        ih fun m' hm' => h m' (List.mem_cons_of_mem m hm')]

end LspAdapter.Framing
