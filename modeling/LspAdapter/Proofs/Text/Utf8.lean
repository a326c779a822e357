import LspAdapter.Text.Utf8
/-!
# Reading what was written in UTF-8

A sequence of bytes is well formed exactly if it is what some text is written as,
and that text is read from it.

* `first_*` — what a first byte begins, by the length of its sequence;
* `encodeChar_*` — the code point of a complete sequence is written as that sequence;
* `decode?_eq_some_iff` — reading and writing of whole texts.
-/

namespace LspAdapter.Text.Utf8

/-! ## First bytes -/

theorem first_one {b : UInt8} (h : b.toNat < 0x80) :
    first b = .inl (.char (Char.ofNat b.toNat)) := by
  unfold first
  rw [if_pos h]

theorem first_two {b : UInt8} (h : 0xC2 ≤ b.toNat) (h' : b.toNat < 0xE0) :
    first b = .inr ⟨1, b.toNat - 0xC0, 1, 0x80, 0xBF⟩ := by
  unfold first
  rw [if_neg (by omega), if_neg (by omega), if_pos h']

theorem first_three {b : UInt8} (h : 0xE0 ≤ b.toNat) (h' : b.toNat < 0xF0) :
    first b = .inr ⟨1, b.toNat - 0xE0, 2, if b.toNat = 0xE0 then 0xA0 else 0x80,
      if b.toNat = 0xED then 0x9F else 0xBF⟩ := by
  unfold first
  rw [if_neg (by omega), if_neg (by omega), if_neg (by omega)]
  by_cases hE0 : b.toNat = 0xE0
  · simp [hE0]
  · by_cases hED : b.toNat = 0xED
    · simp [hED]
    · rw [if_neg hE0, if_neg hED, if_pos h', if_neg hE0, if_neg hED]

theorem first_four {b : UInt8} (h : 0xF0 ≤ b.toNat) (h' : b.toNat < 0xF5) :
    first b = .inr ⟨1, b.toNat - 0xF0, 3, if b.toNat = 0xF0 then 0x90 else 0x80,
      if b.toNat = 0xF4 then 0x8F else 0xBF⟩ := by
  unfold first
  rw [if_neg (by omega), if_neg (by omega), if_neg (by omega), if_neg (by omega),
    if_neg (by omega), if_neg (by omega)]
  by_cases hF0 : b.toNat = 0xF0
  · simp [hF0]
  · by_cases hF4 : b.toNat = 0xF4
    · simp [hF4]
    · rw [if_neg hF0, if_pos (by omega), if_neg hF0, if_neg hF4]

theorem first_faulty {b : UInt8} (h : 0x80 ≤ b.toNat) (h' : b.toNat < 0xC2 ∨ 0xF5 ≤ b.toNat) :
    first b = .inl (.faulty 1) := by
  unfold first
  rw [if_neg (by omega)]
  rcases h' with h' | h'
  · rw [if_pos h']
  · rw [if_neg (by omega), if_neg (by omega), if_neg (by omega), if_neg (by omega),
      if_neg (by omega), if_neg (by omega), if_neg (by omega), if_neg (by omega)]

/-! ## Later bytes -/

theorem chunksFrom_single {b : UInt8} {chunk : Chunk} (h : first b = .inl chunk)
    (bs : List UInt8) : chunksFrom none (b :: bs) = chunk :: chunksFrom none bs := by
  simp [chunksFrom, advance, advance.begun, h]

theorem chunksFrom_open {b : UInt8} {o : Open} (h : first b = .inr o) (bs : List UInt8) :
    chunksFrom none (b :: bs) = chunksFrom (some o) bs := by
  simp [chunksFrom, advance, advance.begun, h]

def Open.next (o : Open) (b : UInt8) : Open :=
  ⟨o.taken + 1, 64 * o.value + (b.toNat - 0x80), o.missing - 1, 0x80, 0xBF⟩

theorem chunksFrom_next {o : Open} {b : UInt8} (hlow : o.low ≤ b.toNat) (hhigh : b.toNat ≤ o.high)
    (hmissing : 1 < o.missing) (bs : List UInt8) :
    chunksFrom (some o) (b :: bs) = chunksFrom (some (o.next b)) bs := by
  simp [chunksFrom, advance, hlow, hhigh, Nat.not_le_of_lt hmissing, Open.next]

theorem chunksFrom_last {o : Open} {b : UInt8} (hlow : o.low ≤ b.toNat) (hhigh : b.toNat ≤ o.high)
    (hmissing : o.missing ≤ 1) (bs : List UInt8) :
    chunksFrom (some o) (b :: bs) =
      .char (Char.ofNat (64 * o.value + (b.toNat - 0x80))) :: chunksFrom none bs := by
  simp [chunksFrom, advance, hlow, hhigh, hmissing]

/-- In well formed bytes an open sequence goes on with a byte in its range. -/
theorem exists_next_of_wellFormed {o : Open} {bs : List UInt8} {cs : List Char}
    (h : wellFormed? (chunksFrom (some o) bs) = some cs) :
    ∃ b rest, bs = b :: rest ∧ o.low ≤ b.toNat ∧ b.toNat ≤ o.high := by
  cases bs with
  | nil => simp [chunksFrom, wellFormed?] at h
  | cons b rest =>
      refine ⟨b, rest, rfl, Decidable.byContradiction fun hrange => ?_⟩
      simp only [chunksFrom, advance, if_neg hrange, advance.begun] at h
      cases hfirst : first b with
      | inl chunk => simp [hfirst, wellFormed?] at h
      | inr o => simp [hfirst, wellFormed?] at h

theorem wellFormed?_char {c : Char} {chunks : List Chunk} {cs : List Char}
    (h : wellFormed? (.char c :: chunks) = some cs) :
    ∃ rest, cs = c :: rest ∧ wellFormed? chunks = some rest := by
  obtain ⟨rest, hrest, rfl⟩ := Option.map_eq_some_iff.1 h
  exact ⟨rest, rfl, hrest⟩

/-! ## Single characters -/

theorem toNat_charOfNat {n : Nat} (h : n.isValidChar) : (Char.ofNat n).toNat = n := by
  rw [Char.ofNat, dif_pos h]
  rfl

theorem eq_ofNat {b : UInt8} {n : Nat} (h : n = b.toNat) : UInt8.ofNat n = b := by
  rw [h, UInt8.ofNat_toNat]

/-- The complete sequences and the characters that they stand for. The second byte
has a narrower range after E0, ED, F0 and F4. -/
inductive Sequence : List UInt8 → Char → Prop
  | one (a : UInt8) : a.toNat < 0x80 → Sequence [a] (Char.ofNat a.toNat)
  | two (a b : UInt8) : 0xC2 ≤ a.toNat → a.toNat < 0xE0 → 0x80 ≤ b.toNat → b.toNat ≤ 0xBF →
      Sequence [a, b] (Char.ofNat (64 * (a.toNat - 0xC0) + (b.toNat - 0x80)))
  | three (a b c : UInt8) : 0xE0 ≤ a.toNat → a.toNat < 0xF0 →
      (if a.toNat = 0xE0 then 0xA0 else 0x80) ≤ b.toNat →
      b.toNat ≤ (if a.toNat = 0xED then 0x9F else 0xBF) → 0x80 ≤ c.toNat → c.toNat ≤ 0xBF →
      Sequence [a, b, c] (Char.ofNat
        (64 * (64 * (a.toNat - 0xE0) + (b.toNat - 0x80)) + (c.toNat - 0x80)))
  | four (a b c d : UInt8) : 0xF0 ≤ a.toNat → a.toNat < 0xF5 →
      (if a.toNat = 0xF0 then 0x90 else 0x80) ≤ b.toNat →
      b.toNat ≤ (if a.toNat = 0xF4 then 0x8F else 0xBF) → 0x80 ≤ c.toNat → c.toNat ≤ 0xBF →
      0x80 ≤ d.toNat → d.toNat ≤ 0xBF →
      Sequence [a, b, c, d] (Char.ofNat
        (64 * (64 * (64 * (a.toNat - 0xF0) + (b.toNat - 0x80)) + (c.toNat - 0x80)) +
          (d.toNat - 0x80)))

namespace Sequence

/-- A character is written as the sequence that stands for it. -/
theorem encodeChar_eq {bs : List UInt8} {ch : Char} (h : Sequence bs ch) :
    String.utf8EncodeChar ch = bs := by
  cases h with
  | one a ha =>
      simp only [String.utf8EncodeChar, Char.toNat_val]
      rw [toNat_charOfNat (.inl (by omega)), if_pos (by omega), eq_ofNat rfl]
  | two a b ha ha' hb hb' =>
      simp only [String.utf8EncodeChar, Char.toNat_val]
      rw [toNat_charOfNat (.inl (by omega)), if_neg (by omega), if_pos (by omega),
        eq_ofNat (b := a) (by omega), eq_ofNat (b := b) (by omega)]
  | three a b c ha ha' hb hb' hc hc' =>
      -- The narrower ranges leave out overlong forms and surrogates.
      have hvalid : (64 * (64 * (a.toNat - 0xE0) + (b.toNat - 0x80)) +
          (c.toNat - 0x80)).isValidChar := by
        by_cases hED : a.toNat = 0xED
        · rw [if_pos hED] at hb'
          exact .inl (by omega)
        · have hcases : a.toNat < 0xED ∨ 0xED < a.toNat := by omega
          rw [if_neg hED] at hb'
          rcases hcases with hlt | hgt
          · exact .inl (by omega)
          · exact .inr (by omega)
      have hlong : 0x800 ≤ 64 * (64 * (a.toNat - 0xE0) + (b.toNat - 0x80)) + (c.toNat - 0x80) := by
        split at hb <;> omega
      have hhigh : b.toNat ≤ 0xBF := by split at hb' <;> omega
      have hlow : 0x80 ≤ b.toNat := by split at hb <;> omega
      simp only [String.utf8EncodeChar, Char.toNat_val]
      rw [toNat_charOfNat hvalid, if_neg (by omega), if_neg (by omega), if_pos (by omega),
        eq_ofNat (b := a) (by omega), eq_ofNat (b := b) (by omega), eq_ofNat (b := c) (by omega)]
  | four a b c d ha ha' hb hb' hc hc' hd hd' =>
      have hlong : 0x10000 ≤ 64 * (64 * (64 * (a.toNat - 0xF0) + (b.toNat - 0x80)) +
          (c.toNat - 0x80)) + (d.toNat - 0x80) := by
        split at hb <;> omega
      have hvalid : (64 * (64 * (64 * (a.toNat - 0xF0) + (b.toNat - 0x80)) +
          (c.toNat - 0x80)) + (d.toNat - 0x80)).isValidChar := by
        refine .inr ⟨by omega, ?_⟩
        split at hb' <;> omega
      have hhigh : b.toNat ≤ 0xBF := by split at hb' <;> omega
      have hlow : 0x80 ≤ b.toNat := by split at hb <;> omega
      simp only [String.utf8EncodeChar, Char.toNat_val]
      rw [toNat_charOfNat hvalid, if_neg (by omega), if_neg (by omega), if_neg (by omega),
        eq_ofNat (b := a) (by omega), eq_ofNat (b := b) (by omega), eq_ofNat (b := c) (by omega),
        eq_ofNat (b := d) (by omega)]

/-- A sequence in front of some bytes is read as its character. -/
theorem chunksFrom_eq {bs : List UInt8} {ch : Char} (h : Sequence bs ch) (rest : List UInt8) :
    chunksFrom none (bs ++ rest) = .char ch :: chunksFrom none rest := by
  cases h with
  | one a ha => exact chunksFrom_single (first_one ha) rest
  | two a b ha ha' hb hb' =>
      rw [List.cons_append, chunksFrom_open (first_two ha ha')]
      exact chunksFrom_last hb hb' (Nat.le_refl 1) rest
  | three a b c ha ha' hb hb' hc hc' =>
      rw [List.cons_append, chunksFrom_open (first_three ha ha'), List.cons_append,
        chunksFrom_next hb hb' (by decide : 1 < 2)]
      exact chunksFrom_last hc hc' (Nat.le_refl 1) rest
  | four a b c d ha ha' hb hb' hc hc' hd hd' =>
      rw [List.cons_append, chunksFrom_open (first_four ha ha'), List.cons_append,
        chunksFrom_next hb hb' (by decide : 1 < 3), List.cons_append,
        chunksFrom_next hc hc' (by decide : 1 < 2)]
      exact chunksFrom_last hd hd' (Nat.le_refl 1) rest

end Sequence

theorem exists_byte {n : Nat} (h : n < 256) : ∃ b : UInt8, UInt8.ofNat n = b ∧ b.toNat = n :=
  ⟨.ofNat n, rfl, UInt8.toNat_ofNat_of_lt' h⟩

/-- Every character is written as a complete sequence. -/
theorem sequence_encodeChar (ch : Char) : Sequence (String.utf8EncodeChar ch) ch := by
  have hvalid : ch.toNat.isValidChar := ch.valid
  have hread : ∀ {n : Nat} {bs : List UInt8}, Sequence bs (Char.ofNat n) → n = ch.toNat →
      Sequence bs ch := by
    rintro n bs h rfl
    rwa [Char.ofNat_toNat] at h
  simp only [String.utf8EncodeChar, Char.toNat_val]
  generalize ch.toNat = n at hvalid hread
  by_cases h1 : n ≤ 127
  · obtain ⟨a, ha, hna⟩ := exists_byte (n := n) (by omega)
    rw [if_pos h1, ha]
    exact hread (.one a (by omega)) (by omega)
  by_cases h2 : n ≤ 2047
  · obtain ⟨a, ha, hna⟩ := exists_byte (n := n / 64 % 32 + 192) (by omega)
    obtain ⟨b, hb, hnb⟩ := exists_byte (n := n % 64 + 128) (by omega)
    rw [if_neg h1, if_pos h2, ha, hb]
    exact hread (.two a b (by omega) (by omega) (by omega) (by omega)) (by omega)
  by_cases h3 : n ≤ 65535
  · obtain ⟨a, ha, hna⟩ := exists_byte (n := n / 4096 % 16 + 224) (by omega)
    obtain ⟨b, hb, hnb⟩ := exists_byte (n := n / 64 % 64 + 128) (by omega)
    obtain ⟨c, hc, hnc⟩ := exists_byte (n := n % 64 + 128) (by omega)
    rw [if_neg h1, if_neg h2, if_pos h3, ha, hb, hc]
    have hlow : (if a.toNat = 0xE0 then 0xA0 else 0x80) ≤ b.toNat := by split <;> omega
    have hhigh : b.toNat ≤ (if a.toNat = 0xED then 0x9F else 0xBF) := by
      rcases hvalid with hvalid | hvalid <;> split <;> omega
    exact hread (.three a b c (by omega) (by omega) hlow hhigh (by omega) (by omega)) (by omega)
  · obtain ⟨a, ha, hna⟩ := exists_byte (n := n / 262144 % 8 + 240) (by omega)
    obtain ⟨b, hb, hnb⟩ := exists_byte (n := n / 4096 % 64 + 128) (by omega)
    obtain ⟨c, hc, hnc⟩ := exists_byte (n := n / 64 % 64 + 128) (by omega)
    obtain ⟨d, hd, hnd⟩ := exists_byte (n := n % 64 + 128) (by omega)
    rw [if_neg h1, if_neg h2, if_neg h3, ha, hb, hc, hd]
    have hbound : n < 0x110000 := by omega
    have hlow : (if a.toNat = 0xF0 then 0x90 else 0x80) ≤ b.toNat := by split <;> omega
    have hhigh : b.toNat ≤ (if a.toNat = 0xF4 then 0x8F else 0xBF) := by split <;> omega
    exact hread (.four a b c d (by omega) (by omega) hlow hhigh (by omega) (by omega) (by omega)
      (by omega)) (by omega)

/-- Well formed bytes are none or begin with a complete sequence. -/
theorem exists_sequence_of_wellFormed {bs : List UInt8} {cs : List Char}
    (h : wellFormed? (chunksFrom none bs) = some cs) :
    (bs = [] ∧ cs = []) ∨ ∃ seq ch rest cs', Sequence seq ch ∧ bs = seq ++ rest ∧
      cs = ch :: cs' ∧ wellFormed? (chunksFrom none rest) = some cs' := by
  cases bs with
  | nil => exact .inl ⟨rfl, (Option.some.inj h).symm⟩
  | cons a bs =>
      right
      have hfinish : ∀ {seq : List UInt8} {ch : Char} (rest : List UInt8), Sequence seq ch →
          a :: bs = seq ++ rest → ∃ seq ch rest cs', Sequence seq ch ∧ a :: bs = seq ++ rest ∧
            cs = ch :: cs' ∧ wellFormed? (chunksFrom none rest) = some cs' := by
        intro seq ch rest hseq heq
        rw [heq, hseq.chunksFrom_eq] at h
        obtain ⟨cs', hcs, hrest⟩ := wellFormed?_char h
        exact ⟨seq, ch, rest, cs', hseq, heq, hcs, hrest⟩
      by_cases h1 : a.toNat < 0x80
      · exact hfinish bs (.one a h1) rfl
      by_cases hfaulty : a.toNat < 0xC2 ∨ 0xF5 ≤ a.toNat
      · rw [chunksFrom_single (first_faulty (by omega) hfaulty)] at h
        cases h
      by_cases h2 : a.toNat < 0xE0
      · rw [chunksFrom_open (first_two (by omega) h2)] at h
        obtain ⟨b, rest, rfl, hb, hb'⟩ := exists_next_of_wellFormed h
        exact hfinish rest (.two a b (by omega) h2 hb hb') rfl
      by_cases h3 : a.toNat < 0xF0
      · rw [chunksFrom_open (first_three (by omega) h3)] at h
        obtain ⟨b, bs, rfl, hb, hb'⟩ := exists_next_of_wellFormed h
        rw [chunksFrom_next hb hb' (by decide : 1 < 2)] at h
        obtain ⟨c, rest, rfl, hc, hc'⟩ := exists_next_of_wellFormed h
        exact hfinish rest (.three a b c (by omega) h3 hb hb' hc hc') rfl
      · rw [chunksFrom_open (first_four (by omega) (by omega))] at h
        obtain ⟨b, bs, rfl, hb, hb'⟩ := exists_next_of_wellFormed h
        rw [chunksFrom_next hb hb' (by decide : 1 < 3)] at h
        obtain ⟨c, bs, rfl, hc, hc'⟩ := exists_next_of_wellFormed h
        rw [chunksFrom_next hc hc' (by decide : 1 < 2)] at h
        obtain ⟨d, rest, rfl, hd, hd'⟩ := exists_next_of_wellFormed h
        exact hfinish rest
          (.four a b c d (by omega) (by omega) hb hb' hc hc' hd hd') rfl

/-! ## Whole texts -/

theorem wellFormed?_encode (cs : List Char) :
    wellFormed? (chunksFrom none (cs.flatMap String.utf8EncodeChar)) = some cs := by
  induction cs with
  | nil => rfl
  | cons ch cs ih =>
      rw [List.flatMap_cons, (sequence_encodeChar ch).chunksFrom_eq, wellFormed?, ih]
      rfl

theorem eq_encode_of_wellFormed {bs : List UInt8} {cs : List Char}
    (h : wellFormed? (chunksFrom none bs) = some cs) :
    bs = cs.flatMap String.utf8EncodeChar := by
  induction cs generalizing bs with
  | nil =>
      rcases exists_sequence_of_wellFormed h with ⟨rfl, -⟩ | ⟨_, _, _, _, _, _, hcs, _⟩
      · rfl
      · cases hcs
  | cons ch cs ih =>
      rcases exists_sequence_of_wellFormed h with ⟨-, hcs⟩ | ⟨seq, _, rest, _, hseq, rfl, hcs, hrest⟩
      · cases hcs
      · cases hcs
        rw [List.flatMap_cons, hseq.encodeChar_eq, ih hrest]

/-- A text is read from some bytes exactly if it is written as them. -/
theorem decode?_eq_some_iff {bs : List UInt8} {s : String} :
    decode? bs = some s ↔ bs = encode s := by
  rw [decode?, Option.map_eq_some_iff]
  constructor
  · rintro ⟨cs, hcs, rfl⟩
    rw [encode, String.toList_ofList]
    exact eq_encode_of_wellFormed hcs
  · rintro rfl
    exact ⟨s.toList, wellFormed?_encode s.toList, String.ofList_toList⟩

@[simp] theorem decode?_encode (s : String) : decode? (encode s) = some s :=
  decode?_eq_some_iff.2 rfl

/-- The bytes of a text are those that the library gives it. -/
theorem toUTF8_eq_encode (s : String) : s.toUTF8.data.toList = encode s := by
  rw [String.toUTF8, ← String.utf8Encode_toList, List.utf8Encode, List.toList_data_toByteArray,
    encode]

theorem utf8ByteSize_eq_length_encode (s : String) : s.utf8ByteSize = (encode s).length := by
  rw [← toUTF8_eq_encode]
  rfl

theorem encode_append (s t : String) : encode (s ++ t) = encode s ++ encode t := by
  rw [encode, String.toList_append, List.flatMap_append]
  rfl

theorem encode_inj {s t : String} : encode s = encode t ↔ s = t := by
  rw [← decode?_eq_some_iff, decode?_encode, Option.some_inj]

end LspAdapter.Text.Utf8
