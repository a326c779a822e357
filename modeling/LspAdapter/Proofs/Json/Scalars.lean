import LspAdapter.Json.Printer
import LspAdapter.Json.Reader
/-!
# Strings and integers in JSON text

The written form of a string or of an integer of at most 64 bits is read back as what it
was written for, whatever follows it, and holds no raw control character.

* `readString_writeString` — a string, through the three ways of writing a character;
* `readNumber_integerText` — an integer, which must not be followed by more of a number.
-/

namespace LspAdapter.Json

/-- Whether some characters can be shown, none being a raw control character. -/
def Shown (cs : List Char) : Prop :=
  ∀ c ∈ cs, 0x20 ≤ c.toNat

instance (cs : List Char) : Decidable (Shown cs) :=
  List.decidableBAll _ cs

/-! ## One character of a string -/

inductive Escaped : Char → List Char → Prop
  | letter (l c : Char) : escapeMeaning? l = some c → 0x20 ≤ l.toNat → Escaped c ['\\', l]
  | code (c : Char) : c.toNat < 0x20 →
      Escaped c ['\\', 'u', '0', '0', Nat.digitChar (c.toNat / 16), Nat.digitChar (c.toNat % 16)]
  | plain (c : Char) : 0x20 ≤ c.toNat → c ≠ '"' → c ≠ '\\' → Escaped c [c]

theorem escaped_escapeChar (c : Char) : Escaped c (escapeChar c) := by
  unfold escapeChar
  split
  case h_8 hquote hbackslash _ _ _ _ _ =>
    split
    next hlow => exact .code c hlow
    next hhigh => exact .plain c (Nat.le_of_not_lt hhigh) hquote hbackslash
  all_goals exact .letter _ _ rfl (by decide)

theorem hexDigit?_digitChar : ∀ {d : Nat}, d < 16 → hexDigit? d.digitChar = some d := by
  decide

theorem toNat_digitChar_ge : ∀ {d : Nat}, d < 16 → 0x20 ≤ d.digitChar.toNat := by
  decide

variable {c : Char} {cs text rest : List Char}

/-- What is written for a character is read as that character. -/
theorem Escaped.readChars_append (h : Escaped c cs) {more : List Char}
    (hmore : readChars none more = .ok (text, rest)) :
    readChars none (cs ++ more) = .ok (c :: text, rest) := by
  cases h with
  | letter l _ hmeaning _ =>
      have hu : l = 'u' → False := by
        rintro rfl
        cases hmeaning
      show readChars none ('\\' :: l :: more) = _
      rw [readChars.eq_4 none l more hu, hmeaning, hmore]
      rfl
  | code _ hlow =>
      have hvalue : hexValue? '0' '0' (Nat.digitChar (c.toNat / 16))
          (Nat.digitChar (c.toNat % 16)) = some c.toNat := by
        have hzero : hexDigit? '0' = some 0 := by decide
        have hhigh := hexDigit?_digitChar (d := c.toNat / 16) (by omega)
        have hlast := hexDigit?_digitChar (d := c.toNat % 16) (by omega)
        have hsum : 4096 * 0 + 256 * 0 + 16 * (c.toNat / 16) + c.toNat % 16 = c.toNat := by omega
        simp only [hexValue?, hzero, hhigh, hlast, Option.bind_eq_bind, Option.bind_some,
          Option.pure_def, hsum]
      have hsecond : isLowSurrogate c.toNat = false := by
        simp only [isLowSurrogate, Bool.and_eq_false_iff, decide_eq_false_iff_not]
        omega
      have hfirst : isHighSurrogate c.toNat = false := by
        simp only [isHighSurrogate, Bool.and_eq_false_iff, decide_eq_false_iff_not]
        omega
      show readChars none ('\\' :: 'u' :: '0' :: '0' :: _ :: _ :: more) = _
      rw [readChars.eq_2, hvalue]
      simp only [hsecond, hfirst, hmore, Bool.false_eq_true, if_false, Char.ofNat_toNat]
      rfl
  | plain _ hhigh hquote hbackslash =>
      show readChars none (c :: more) = _
      rw [readChars.eq_6 none c more (fun _ h => absurd h hbackslash)
        (fun _ _ h => absurd h hbackslash) (fun h => absurd h hbackslash)]
      rw [if_neg (by simp), if_neg hquote, if_neg (Nat.not_lt.2 hhigh), hmore]
      rfl

theorem Escaped.shown (h : Escaped c cs) : Shown cs := by
  cases h with
  | letter l _ _ hl => simpa [Shown] using hl
  | code _ hlow =>
      have hhigh := toNat_digitChar_ge (d := c.toNat / 16) (by omega)
      have hlast := toNat_digitChar_ge (d := c.toNat % 16) (by omega)
      simpa [Shown] using ⟨hhigh, hlast⟩
  | plain _ hhigh _ _ => simpa [Shown] using hhigh

/-! ## Strings -/

theorem readChars_escaped (cs rest : List Char) :
    readChars none (cs.flatMap escapeChar ++ '"' :: rest) = .ok (cs, rest) := by
  induction cs with
  | nil =>
      show readChars none ('"' :: rest) = _
      rw [readChars.eq_6 none '"' rest (by simp) (by simp) (by simp)]
      rfl
  | cons c cs ih =>
      rw [List.flatMap_cons, List.append_assoc]
      exact (escaped_escapeChar c).readChars_append ih

theorem writeString_append (s : String) (rest : List Char) :
    writeString s ++ rest = '"' :: (s.toList.flatMap escapeChar ++ '"' :: rest) := by
  rw [writeString, List.cons_append, List.cons_append, List.append_assoc, List.singleton_append]

/-- The written form of a string, behind its opening quote, is read as that string. -/
theorem readString_writeString (s : String) (rest : List Char) :
    readString (s.toList.flatMap escapeChar ++ '"' :: rest) = .ok (s, rest) := by
  rw [readString, readChars_escaped]
  show Except.ok (String.ofList s.toList, rest) = _
  rw [String.ofList_toList]

theorem shown_writeString (s : String) : Shown (writeString s) := by
  intro d hd
  have hquote : 0x20 ≤ '"'.toNat := by decide
  rw [writeString, List.mem_append, List.mem_cons, List.mem_singleton, List.mem_flatMap] at hd
  rcases hd with (rfl | ⟨c, -, hd⟩) | rfl
  · exact hquote
  · exact (escaped_escapeChar c).shown d hd
  · exact hquote

/-! ## Integers -/

def EndsNumber (rest : List Char) : Prop :=
  ∀ c ∈ rest.head?, c.isDigit = false ∧ c ≠ '.' ∧ c ≠ 'e' ∧ c ≠ 'E'

theorem le_ofDigitChars (ds : List Char) (s : Nat) : s ≤ Nat.ofDigitChars 10 ds s := by
  rw [Nat.ofDigitChars_eq_ofDigitChars_zero]
  have hpow : 1 ≤ 10 ^ ds.length := Nat.one_le_pow _ _ (by decide)
  have hmul := Nat.mul_le_mul_right s hpow
  omega

/-- Digits whose number 64 bits hold are all appended to a significand. -/
theorem appendDigits_of_lt {s : Nat} {ds : List Char}
    (h : Nat.ofDigitChars 10 ds s < 0x10000000000000000) :
    appendDigits s ds = (Nat.ofDigitChars 10 ds s, 0) := by
  induction ds generalizing s with
  | nil => rfl
  | cons d ds ih =>
      rw [Nat.ofDigitChars_cons] at h ⊢
      have hle := le_ofDigitChars ds (10 * s + digitValue d)
      have hlt : 10 * s + digitValue d < 0x10000000000000000 := Nat.lt_of_le_of_lt hle h
      rw [appendDigits, if_pos hlt]
      exact ih h

theorem exists_head_toDigits (n : Nat) :
    ∃ d ds, Nat.toDigits 10 n = d :: ds ∧ d.isDigit = true ∧ (d = '0' → ds = []) := by
  -- On all the digits but the last, as the first of them is that of a smaller number.
  induction n using Nat.strongRecOn with
  | ind n ih =>
      rw [Nat.toDigits_eq_if (by decide)]
      by_cases hn : n < 10
      · rw [if_pos hn]
        refine ⟨_, _, rfl, ?_, fun _ => rfl⟩
        rw [Nat.isDigit_digitChar]
        exact decide_eq_true hn
      · obtain ⟨d, ds, heq, hd, hzero⟩ := ih (n / 10) (by omega)
        rw [if_neg hn, heq]
        refine ⟨d, ds ++ [(n % 10).digitChar], rfl, hd, fun h => ?_⟩
        -- A number whose digits are a zero alone is zero, and this one is not.
        have hvalue : Nat.ofDigitChars 10 (Nat.toDigits 10 (n / 10)) 0 = n / 10 :=
          Nat.ofDigitChars_ten_toDigits
        rw [heq, h, hzero h] at hvalue
        have hnone : n / 10 = 0 := hvalue.symm
        omega

theorem takeWhile_toDigits {n : Nat} {rest : List Char} (h : EndsNumber rest) :
    (Nat.toDigits 10 n ++ rest).takeWhile Char.isDigit = Nat.toDigits 10 n ∧
      (Nat.toDigits 10 n ++ rest).dropWhile Char.isDigit = rest := by
  have hdigits : ∀ c ∈ Nat.toDigits 10 n, c.isDigit = true := fun c hc =>
    Nat.isDigit_of_mem_toDigits (by decide) (by decide) hc
  have hrest : rest.takeWhile Char.isDigit = [] ∧ rest.dropWhile Char.isDigit = rest := by
    cases rest with
    | nil => exact ⟨rfl, rfl⟩
    | cons c cs =>
        have hc := ne_true_of_eq_false (h c rfl).1
        exact ⟨List.takeWhile_cons_of_neg hc, List.dropWhile_cons_of_neg hc⟩
  rw [List.takeWhile_append_of_pos hdigits, List.dropWhile_append_of_pos hdigits, hrest.1,
    hrest.2, List.append_nil]
  exact ⟨rfl, rfl⟩

theorem readUnsigned_toDigits (negative : Bool) (n : Nat) {rest : List Char}
    (h : EndsNumber rest) :
    readUnsigned negative (Nat.toDigits 10 n ++ rest) =
      readAfterInteger negative (Nat.toDigits 10 n) rest := by
  obtain ⟨htake, hdrop⟩ := takeWhile_toDigits (n := n) h
  obtain ⟨d, ds, heq, hd, hzero⟩ := exists_head_toDigits n
  rw [heq, List.cons_append] at htake hdrop ⊢
  unfold readUnsigned
  split
  case h_1 heq' => cases heq'
  case h_2 c cs heq' =>
      obtain ⟨rfl, hrest⟩ := List.cons.inj heq'
      rw [hzero rfl, List.nil_append] at hrest
      rw [hrest] at h
      rw [if_neg (ne_true_of_eq_false (h c rfl).1), hzero rfl, hrest]
  case h_3 heq' =>
      obtain ⟨rfl, rfl⟩ := List.cons.inj heq'
      rw [if_pos hd, htake, hdrop]

theorem readAfterInteger_toDigits (negative : Bool) {n : Nat} {rest : List Char}
    (hn : n < 0x10000000000000000) (h : EndsNumber rest) :
    readAfterInteger negative (Nat.toDigits 10 n) rest =
      if !negative then .ok (.integer n, rest)
      else if n ≠ 0 ∧ n ≤ 0x8000000000000000 then .ok (.integer (-n), rest)
      else Parts.read ⟨negative, n, 0⟩ rest := by
  have hdigits : appendDigits 0 (Nat.toDigits 10 n) = (n, 0) := by
    have hvalue : Nat.ofDigitChars 10 (Nat.toDigits 10 n) 0 = n := Nat.ofDigitChars_ten_toDigits
    rw [appendDigits_of_lt (by rwa [hvalue]), hvalue]
  simp only [readAfterInteger, hdigits]
  split
  case h_1 cs => exact absurd rfl (h '.' rfl).2.1
  case h_2 cs => exact absurd rfl (h 'e' rfl).2.2.1
  case h_3 cs => exact absurd rfl (h 'E' rfl).2.2.2
  case h_4 => simp

/-- An integer of at most 64 bits is read from its written form. -/
theorem readNumber_integerText {n : Int} (hlow : -0x8000000000000000 ≤ n)
    (hhigh : n < 0x10000000000000000) {rest : List Char} (h : EndsNumber rest) :
    readNumber (integerText n ++ rest) = .ok (.integer n, rest) := by
  cases n with
  | ofNat n =>
      obtain ⟨d, ds, heq, hd, -⟩ := exists_head_toDigits n
      have hminus : d ≠ '-' := by
        rintro rfl
        exact absurd hd (by decide)
      have hunsigned : readNumber (integerText (.ofNat n) ++ rest) =
          readUnsigned false (Nat.toDigits 10 n ++ rest) := by
        rw [integerText, heq, List.cons_append]
        unfold readNumber
        split
        next heq' => exact absurd (List.cons.inj heq').1 hminus
        next => rfl
      have hn : n < 0x10000000000000000 := by
        rw [Int.ofNat_eq_natCast] at hhigh
        omega
      rw [hunsigned, readUnsigned_toDigits false n h, readAfterInteger_toDigits false hn h]
      rfl
  | negSucc n =>
      have hbound : n + 1 ≤ 0x8000000000000000 := by omega
      have hunsigned : readNumber (integerText (.negSucc n) ++ rest) =
          readUnsigned true (Nat.toDigits 10 (n + 1) ++ rest) := rfl
      rw [hunsigned, readUnsigned_toDigits true (n + 1) h,
        readAfterInteger_toDigits true (by omega) h, if_neg (by simp),
        if_pos ⟨Nat.succ_ne_zero n, hbound⟩]
      rfl

theorem exists_head_integerText (n : Int) :
    ∃ c cs, integerText n = c :: cs ∧ (c.isDigit || c = '-') = true := by
  cases n with
  | ofNat n =>
      obtain ⟨d, ds, heq, hd, -⟩ := exists_head_toDigits n
      exact ⟨d, ds, heq, by rw [hd]; rfl⟩
  | negSucc n => exact ⟨'-', _, rfl, rfl⟩

theorem shown_integerText (n : Int) : Shown (integerText n) := by
  have hdigits : ∀ n : Nat, Shown (Nat.toDigits 10 n) := by
    intro n d hd
    have hdigit := Nat.isDigit_of_mem_toDigits (by decide) (by decide) hd
    have hzero : '0'.toNat = 48 := rfl
    have hlow := (Char.isDigit_iff_toNat.1 hdigit).1
    omega
  cases n with
  | ofNat n => exact hdigits n
  | negSucc n =>
      intro d hd
      rcases List.mem_cons.1 hd with rfl | hd
      · decide
      · exact hdigits (n + 1) d hd

end LspAdapter.Json
