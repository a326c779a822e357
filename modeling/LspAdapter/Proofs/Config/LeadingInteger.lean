import LspAdapter.Config.LeadingInteger
import LspAdapter.Config.LogLevel
import LspAdapter.Text.Utf8
import Mathlib.Data.List.Induction
import Mathlib.Data.Nat.Digits.Defs
/-!
# Reading the integer at the start of a text

A text is made of blanks, perhaps a sign, a run of digits, and a rest that does not
go on with a digit.  If there is a digit at all, it is made like this in one way only,
and what is read is the number that the digits denote, unless it is too great.

* `exists_madeOf`, `MadeOf.split_eq` — the parts of a text, and that they are unique;
* `front_digitsEnd` — the run of digits is cut off between two characters;
* `number?_eq` — digits are read within 64 bits exactly if the number has no more;
* `read?_eq_some_iff` — the integer that is read;
* `magnitude_snoc`, `magnitude_eq_iff` — the number that a run of digits denotes.
-/

namespace LspAdapter.LeadingInteger

open Text (isBlank)

/-- The parts of a text that begins with an integer: whether its sign is a
minus, the run of digits, and what follows. -/
structure Split where
  negative : Bool
  digits : List Char
  rest : List Char
  deriving DecidableEq, Repr

def split (s : String) : Split :=
  let (negative, cs) := takeSign (s.toList.dropWhile isBlank)
  ⟨negative, cs.takeWhile Char.isDigit, cs.dropWhile Char.isDigit⟩

def magnitude (digits : List Char) : Nat :=
  digits.foldl (fun n c => 10 * n + (c.toNat - '0'.toNat)) 0

/-- The greatest magnitude that is kept, that of a positive integer of 64
bits. -/
def bound : Nat :=
  0x7FFFFFFFFFFFFFFF

/-! ## Parts of a text -/

inductive Sign : Bool → List Char → Prop
  | absent : Sign false []
  | plus : Sign false ['+']
  | minus : Sign true ['-']

/-- Whether a text is made of blanks, a sign and the parts of a split. -/
structure MadeOf (s : String) (blanks sign : List Char) (p : Split) : Prop where
  text : s.toList = blanks ++ (sign ++ (p.digits ++ p.rest))
  blank : ∀ c ∈ blanks, isBlank c = true
  sign : Sign p.negative sign
  digit : ∀ c ∈ p.digits, c.isDigit = true
  rest : ∀ c ∈ p.rest.head?, c.isDigit = false

theorem exists_sign (cs : List Char) :
    ∃ sign, Sign (takeSign cs).1 sign ∧ cs = sign ++ (takeSign cs).2 := by
  unfold takeSign
  split
  · exact ⟨_, .minus, rfl⟩
  · exact ⟨_, .plus, rfl⟩
  · exact ⟨_, .absent, rfl⟩

theorem Sign.takeSign_append {negative : Bool} {sign : List Char} (h : Sign negative sign)
    {c : Char} (hc : c.isDigit = true) (cs : List Char) :
    takeSign (sign ++ c :: cs) = (negative, c :: cs) := by
  cases h with
  | absent =>
      have hminus : c ≠ '-' := by rintro rfl; exact absurd hc (by decide)
      have hplus : c ≠ '+' := by rintro rfl; exact absurd hc (by decide)
      simp [takeSign, hminus, hplus]
  | plus => rfl
  | minus => rfl

theorem Sign.head?_append_isBlank {negative : Bool} {sign : List Char} (h : Sign negative sign)
    {c : Char} (hc : c.isDigit = true) (cs : List Char) :
    ∃ d ds, sign ++ c :: cs = d :: ds ∧ isBlank d = false := by
  cases h with
  | absent => exact ⟨c, cs, rfl, Text.isBlank_eq_false_of_isDigit hc⟩
  | plus => exact ⟨'+', c :: cs, rfl, by decide⟩
  | minus => exact ⟨'-', c :: cs, rfl, by decide⟩

theorem exists_madeOf (s : String) : ∃ blanks sign, MadeOf s blanks sign (split s) := by
  obtain ⟨sign, hsign, hrest⟩ := exists_sign (s.toList.dropWhile isBlank)
  refine ⟨s.toList.takeWhile isBlank, sign, ?_, ?_, hsign, ?_, ?_⟩
  · show s.toList = _ ++ (sign ++ (_ ++ _))
    rw [split, List.takeWhile_append_dropWhile, ← hrest, List.takeWhile_append_dropWhile]
  · exact List.all_eq_true.1 List.all_takeWhile
  · exact List.all_eq_true.1 List.all_takeWhile
  · intro c hc
    have hhead := List.head?_dropWhile_not Char.isDigit (takeSign (s.toList.dropWhile isBlank)).2
    rw [Option.mem_def] at hc
    rw [split] at hc
    rw [hc] at hhead
    simpa using hhead

/-- A text with a digit behind the blanks and the sign is split into the parts of which
it is made. -/
theorem MadeOf.split_eq {s : String} {blanks sign : List Char} {p : Split}
    (h : MadeOf s blanks sign p) (hne : p.digits ≠ []) : split s = p := by
  obtain ⟨negative, digits, rest⟩ := p
  obtain ⟨d, ds, rfl⟩ := List.exists_cons_of_ne_nil hne
  have hd := h.digit d (List.mem_cons_self)
  have hblanks : s.toList.dropWhile isBlank = sign ++ (d :: (ds ++ rest)) := by
    obtain ⟨e, es, heq, he⟩ := h.sign.head?_append_isBlank hd (ds ++ rest)
    rw [h.text, List.dropWhile_append_of_pos h.blank, List.cons_append, heq,
      List.dropWhile_cons_of_neg (ne_true_of_eq_false he)]
  have hrest : rest.takeWhile Char.isDigit = [] ∧ rest.dropWhile Char.isDigit = rest := by
    cases rest with
    | nil => exact ⟨rfl, rfl⟩
    | cons c cs =>
        have hc := ne_true_of_eq_false (h.rest c rfl)
        exact ⟨List.takeWhile_cons_of_neg hc, List.dropWhile_cons_of_neg hc⟩
  rw [split, hblanks, h.sign.takeSign_append hd, ← List.cons_append]
  simp only [List.takeWhile_append_of_pos h.digit, List.dropWhile_append_of_pos h.digit, hrest,
    List.append_nil]

/-! ## The end of the digits -/

theorem digitsEnd_eq (cs : List Char) :
    digitsEnd cs = Text.Utf8.byteCount (cs.takeWhile Char.isDigit) := by
  induction cs with
  | nil => rfl
  | cons c cs ih =>
      rw [digitsEnd, List.takeWhile_cons]
      split
      · rw [ih]
        rfl
      · rfl

/-- A cut behind some characters takes just these. -/
theorem front_byteCount_append (as bs : List Char) :
    front (as ++ bs) (Text.Utf8.byteCount as) = .ok as := by
  induction as with
  | nil => simp [Text.Utf8.byteCount, front]
  | cons a as ih =>
      obtain ⟨n, hn⟩ : ∃ n, a.utf8Size + Text.Utf8.byteCount as = n + 1 :=
        Nat.exists_eq_add_one_of_ne_zero (by have := a.utf8Size_pos; omega)
      have hcount : Text.Utf8.byteCount (a :: as) = n + 1 := hn
      have hrest : n + 1 - a.utf8Size = Text.Utf8.byteCount as := by omega
      rw [hcount, List.cons_append, front, if_pos (by omega), hrest, ih]
      rfl

/-- The digits end between two characters. -/
theorem front_digitsEnd (cs : List Char) :
    front cs (digitsEnd cs) = .ok (cs.takeWhile Char.isDigit) := by
  have h := front_byteCount_append (cs.takeWhile Char.isDigit) (cs.dropWhile Char.isDigit)
  rwa [List.takeWhile_append_dropWhile, ← digitsEnd_eq] at h

/-! ## Signed integers of 64 bits -/

theorem int64?_eq_some_iff {z : Int} {n : Int64} : int64? z = some n ↔ n.toInt = z := by
  have hlow := n.le_toInt
  have hhigh := n.toInt_lt
  rw [int64?, Int64.toInt_minValue, Int64.toInt_maxValue]
  split
  · rename_i h
    rw [Option.some_inj, ← Int64.toInt_inj, Int64.toInt_ofInt_of_le h.1 (by omega), eq_comm]
  · refine iff_of_false nofun ?_
    omega

theorem int64?_eq_none_iff {n : Nat} : int64? n = none ↔ bound < n := by
  rw [int64?, Int64.toInt_minValue, Int64.toInt_maxValue, bound]
  split
  · refine iff_of_false nofun ?_
    omega
  · refine iff_of_true rfl ?_
    omega

theorem negate_eq_ok_iff {n m : Int64} : negate n = .ok m ↔ m.toInt = -n.toInt := by
  rw [negate, ← int64?_eq_some_iff]
  cases int64? (-n.toInt) <;> simp

/-! ## The integer -/

def Split.value (p : Split) : Int :=
  let n := min (magnitude p.digits) bound
  if p.negative then -(n : Int) else n

theorem magnitude_snoc (ds : List Char) (d : Char) :
    magnitude (ds ++ [d]) = 10 * magnitude ds + (d.toNat - '0'.toNat) := by
  rw [magnitude, List.foldl_append]
  rfl

theorem push?_eq {n : Int64} {m : Nat} (h : n.toInt = m) (c : Char) :
    push? n c = int64? ((10 * m + digitValue c : Nat) : Int) := by
  unfold push?
  rw [h]
  cases hshifted : int64? (10 * (m : Int)) with
  | none =>
      -- The step that is left out can only have led further from the 64 bits.
      have hbound : bound < 10 * m := int64?_eq_none_iff.1 hshifted
      exact (int64?_eq_none_iff.2 (by omega)).symm
  | some k =>
      have hk := int64?_eq_some_iff.1 hshifted
      show int64? (k.toInt + digitValue c) = _
      rw [hk]
      rfl

theorem number?_snoc (ds : List Char) (d : Char) :
    number? (ds ++ [d]) = (number? ds).bind (push? · d) := by
  rw [number?, List.foldlM_append, number?]
  cases ds.foldlM push? 0 with
  | none => rfl
  | some n => exact bind_pure (push? n d)

/-- Digits are read if the number that they denote has 64 bits, whatever their count. -/
theorem number?_eq (ds : List Char) : number? ds = int64? (magnitude ds) := by
  -- On the last digit: a run that is too great stays so, whatever digit follows.
  induction ds using List.reverseRecOn with
  | nil => rfl
  | append_singleton ds d ih =>
      rw [number?_snoc, ih, magnitude_snoc]
      cases hds : int64? (magnitude ds) with
      | none =>
          have hbound := int64?_eq_none_iff.1 hds
          exact (int64?_eq_none_iff.2 (by omega)).symm
      | some n => exact push?_eq (int64?_eq_some_iff.1 hds) d

theorem toInt_number?_getD (ds : List Char) :
    ((number? ds).getD Int64.maxValue).toInt = (min (magnitude ds) bound : Nat) := by
  rw [number?_eq]
  cases hds : int64? (magnitude ds) with
  | none =>
      have hbound := int64?_eq_none_iff.1 hds
      rw [Option.getD_none, Nat.min_eq_right (Nat.le_of_lt hbound)]
      rfl
  | some n =>
      have hbound : ¬ bound < magnitude ds := by
        rw [← int64?_eq_none_iff, hds]
        nofun
      rw [Option.getD_some, Nat.min_eq_left (Nat.le_of_not_lt hbound)]
      exact int64?_eq_some_iff.1 hds

theorem scan_eq (s : String) : scan s =
    let n := (number? (split s).digits).getD Int64.maxValue
    if (split s).digits.isEmpty then .ok none
    else if (split s).negative then (negate n).map some
    else .ok (some n) := by
  unfold scan split
  rcases takeSign (s.toList.dropWhile isBlank) with ⟨negative, cs⟩
  simp only [front_digitsEnd]
  cases cs.takeWhile Char.isDigit with
  | nil => rfl
  | cons d ds =>
      cases negative with
      | false => rfl
      | true =>
          show (negate ((number? (d :: ds)).getD Int64.maxValue) >>= fun n => .ok (some n)) = _
          cases negate ((number? (d :: ds)).getD Int64.maxValue) <;> rfl

theorem scan_of_digits_eq_nil {s : String} (h : (split s).digits = []) :
    scan s = .ok none := by
  rw [scan_eq, h]
  rfl

/-- Behind a digit nothing breaks the reading off, and it gives what the split stands
for. -/
theorem exists_scan_of_digits_ne_nil {s : String} (h : (split s).digits ≠ []) :
    ∃ n : Int64, scan s = .ok (some n) ∧ n.toInt = (split s).value := by
  have hkept := toInt_number?_getD (split s).digits
  have hempty : (split s).digits.isEmpty = false := List.isEmpty_eq_false_iff.2 h
  cases hsign : (split s).negative with
  | false =>
      refine ⟨(number? (split s).digits).getD Int64.maxValue, ?_, ?_⟩
      · rw [scan_eq, hempty, hsign]
        rfl
      · rw [hkept, Split.value, hsign]
        rfl
  | true =>
      have hrange := Int64.toInt_ofInt_of_le (n := -(min (magnitude (split s).digits) bound : Nat))
        (by unfold bound; omega) (by unfold bound; omega)
      rw [← hkept] at hrange
      refine ⟨.ofInt (-((number? (split s).digits).getD Int64.maxValue).toInt), ?_, ?_⟩
      · rw [scan_eq, hempty, hsign]
        simp only [negate_eq_ok_iff.2 hrange]
        rfl
      · rw [hrange, hkept, Split.value, hsign]
        rfl

theorem read?_eq_of_split (s : String) :
    read? s = if (split s).digits = [] then none else some (split s).value := by
  unfold read?
  by_cases h : (split s).digits = []
  · rw [scan_of_digits_eq_nil h, if_pos h]
    rfl
  · obtain ⟨n, hscan, hvalue⟩ := exists_scan_of_digits_ne_nil h
    rw [hscan, if_neg h, ← hvalue]
    rfl

/-- The integer that is read is the one that the text is made of. -/
theorem read?_eq_some_iff {s : String} {z : Int} : read? s = some z ↔
    ∃ blanks sign p, MadeOf s blanks sign p ∧ p.digits ≠ [] ∧ p.value = z := by
  constructor
  · intro h
    obtain ⟨blanks, sign, hmade⟩ := exists_madeOf s
    rw [read?_eq_of_split] at h
    by_cases hempty : (split s).digits = []
    · rw [if_pos hempty] at h
      cases h
    · rw [if_neg hempty] at h
      exact ⟨blanks, sign, _, hmade, hempty, Option.some.inj h⟩
  · rintro ⟨blanks, sign, p, hmade, hne, rfl⟩
    rw [read?_eq_of_split, hmade.split_eq hne, if_neg hne]

/-! ## Runs of digits -/

theorem toNat_of_isDigit {c : Char} (h : c.isDigit = true) :
    '0'.toNat ≤ c.toNat ∧ c.toNat ≤ '9'.toNat := by
  simp only [Char.isDigit, Bool.and_eq_true, decide_eq_true_eq] at h
  exact ⟨UInt32.le_iff_toNat_le.1 h.1, UInt32.le_iff_toNat_le.1 h.2⟩

theorem magnitude_eq_zero_iff {ds : List Char} (h : ∀ c ∈ ds, c.isDigit = true) :
    magnitude ds = 0 ↔ ∀ c ∈ ds, c = '0' := by
  -- On the last digit, as the run is read from its front.
  induction ds using List.reverseRecOn with
  | nil => simp [magnitude]
  | append_singleton ds d ih =>
      rw [List.forall_mem_append, List.forall_mem_singleton] at h
      have hlow := (toNat_of_isDigit h.2).1
      have hzero : d = '0' ↔ d.toNat - '0'.toNat = 0 := by
        rw [← Char.toNat_inj]
        omega
      rw [magnitude_snoc, List.forall_mem_append, List.forall_mem_singleton, ← ih h.1, hzero]
      omega

/-- A run of digits denotes a number below ten exactly if it is the digit of that number
behind zeros. -/
theorem magnitude_eq_iff {ds : List Char} (h : ∀ c ∈ ds, c.isDigit = true) (hne : ds ≠ [])
    {k : Nat} (hk : k < 10) :
    magnitude ds = k ↔ ∃ zeros, (∀ c ∈ zeros, c = '0') ∧ ds = zeros ++ [k.digitChar] := by
  induction ds using List.reverseRecOn with
  | nil => exact absurd rfl hne
  | append_singleton zeros d _ =>
      rw [List.forall_mem_append, List.forall_mem_singleton] at h
      have hlow := (toNat_of_isDigit h.2).1
      have hzero : '0'.toNat = 48 := rfl
      have hdigit : d = k.digitChar ↔ d.toNat - '0'.toNat = k := by
        rw [← Char.toNat_inj, Nat.toNat_digitChar_of_lt_ten hk]
        omega
      constructor
      · intro heq
        rw [magnitude_snoc] at heq
        refine ⟨zeros, (magnitude_eq_zero_iff h.1).1 (by omega), ?_⟩
        rw [hdigit.2 (by omega)]
      · rintro ⟨zeros', hzeros, heq⟩
        obtain ⟨rfl, hd⟩ := List.append_inj' heq rfl
        rw [magnitude_snoc, (magnitude_eq_zero_iff h.1).2 hzeros]
        rw [hdigit.1 (List.singleton_inj.1 hd)]
        omega

/-! ## Integers without bounds -/

def Split.integer (p : Split) : Int :=
  let n : Nat := Nat.ofDigits 10 (p.digits.reverse.map digitValue)
  if p.negative then -(n : Int) else n

theorem magnitude_eq_ofDigits (ds : List Char) :
    magnitude ds = Nat.ofDigits 10 (ds.reverse.map digitValue) := by
  induction ds using List.reverseRecOn with
  | nil => rfl
  | append_singleton ds d ih =>
      rw [magnitude_snoc, ih, List.reverse_append, List.reverse_singleton, List.singleton_append,
        List.map_cons, Nat.ofDigits_cons, digitValue]
      exact Nat.add_comm _ _

theorem Split.value_of_natAbs_le {p : Split} (h : p.integer.natAbs ≤ bound) :
    p.value = p.integer := by
  unfold integer at h ⊢
  unfold value
  rw [magnitude_eq_ofDigits]
  cases hsign : p.negative with
  | false =>
      rw [hsign] at h
      simp only [Bool.false_eq_true, if_false] at h ⊢
      omega
  | true =>
      rw [hsign] at h
      simp only [if_true] at h ⊢
      omega

theorem Split.value_of_lt_natAbs {p : Split} (h : bound < p.integer.natAbs) :
    p.value = p.integer.sign * bound := by
  unfold integer at h ⊢
  unfold value
  rw [magnitude_eq_ofDigits]
  cases hsign : p.negative with
  | false =>
      rw [hsign] at h
      simp only [Bool.false_eq_true, if_false] at h ⊢
      rw [Int.sign_eq_one_of_pos (by omega)]
      omega
  | true =>
      rw [hsign] at h
      simp only [if_true] at h ⊢
      rw [Int.sign_eq_neg_one_of_neg (by omega)]
      omega

/-- Whether a digit is the first thing in a text behind its blanks and a sign. -/
def HasDigit (s : String) : Prop :=
  ∃ blanks negative sign d rest, s.toList = blanks ++ (sign ++ d :: rest) ∧
    (∀ c ∈ blanks, isBlank c = true) ∧ Sign negative sign ∧ d.isDigit = true

theorem hasDigit_iff (s : String) : HasDigit s ↔ (split s).digits ≠ [] := by
  constructor
  · rintro ⟨blanks, negative, sign, d, rest, htext, hblanks, hsign, hd⟩
    have hmade : MadeOf s blanks sign
        ⟨negative, (d :: rest).takeWhile Char.isDigit, (d :: rest).dropWhile Char.isDigit⟩ := by
      refine ⟨?_, hblanks, hsign, List.all_eq_true.1 List.all_takeWhile, ?_⟩
      · rw [List.takeWhile_append_dropWhile, htext]
      · intro c hc
        have hhead := List.head?_dropWhile_not Char.isDigit (d :: rest)
        rw [Option.mem_def] at hc
        rw [hc] at hhead
        simpa using hhead
    have hne : (d :: rest).takeWhile Char.isDigit ≠ [] := by
      rw [List.takeWhile_cons, if_pos hd]
      exact List.cons_ne_nil _ _
    rw [hmade.split_eq hne]
    exact hne
  · intro hne
    obtain ⟨blanks, sign, hmade⟩ := exists_madeOf s
    obtain ⟨d, ds, hds⟩ := List.exists_cons_of_ne_nil hne
    refine ⟨blanks, _, sign, d, ds ++ (split s).rest, ?_, hmade.blank, hmade.sign, ?_⟩
    · rw [hmade.text, hds]
      rfl
    · exact hmade.digit d (hds ▸ List.mem_cons_self)

/-- No text breaks its reading off, neither by a cut inside a character nor by a result
that is too great.  There is an integer exactly if a digit follows the blanks and the
sign; it is the one that the sign and the whole run of digits denote if that is within 63
bits, and otherwise the greatest or the least that is.  Either way it is the number of a
level exactly if the integer without bounds is. -/
theorem scan_exact (s : String) :
    (∀ f, scan s ≠ .error f) ∧
    (scan s = .ok none ↔ ¬ HasDigit s) ∧
    ∀ blanks sign p, MadeOf s blanks sign p → p.digits ≠ [] →
      ∃ n : Int64, scan s = .ok (some n) ∧ read? s = some n.toInt ∧
        (p.integer.natAbs ≤ 2 ^ 63 - 1 → n.toInt = p.integer) ∧
        (2 ^ 63 - 1 < p.integer.natAbs → n.toInt = p.integer.sign * (2 ^ 63 - 1)) ∧
        ∀ l, LogLevel.ofNumber? n.toInt = some l ↔ p.integer = l.number := by
  refine ⟨fun f => ?_, ?_, fun blanks sign p hmade hne => ?_⟩
  · by_cases hdigits : (split s).digits = []
    · rw [scan_of_digits_eq_nil hdigits]
      nofun
    · obtain ⟨n, hscan, -⟩ := exists_scan_of_digits_ne_nil hdigits
      rw [hscan]
      nofun
  · rw [hasDigit_iff, not_not]
    refine ⟨fun hscan => ?_, scan_of_digits_eq_nil⟩
    by_contra hdigits
    obtain ⟨n, hsome, -⟩ := exists_scan_of_digits_ne_nil hdigits
    rw [hscan] at hsome
    cases hsome
  · have hsplit := hmade.split_eq hne
    obtain ⟨n, hscan, hvalue⟩ := exists_scan_of_digits_ne_nil (s := s) (by rwa [hsplit])
    rw [hsplit] at hvalue
    have hbound : bound = 2 ^ 63 - 1 := rfl
    have hread : read? s = some n.toInt := by
      rw [read?, hscan]
      rfl
    refine ⟨n, hscan, hread, ?_, ?_, fun l => ?_⟩
    · intro hle
      rw [hvalue, Split.value_of_natAbs_le (hbound ▸ hle)]
    · intro hlt
      rw [hvalue, Split.value_of_lt_natAbs (hbound ▸ hlt)]
      rfl
    · rw [LogLevel.ofNumber?_eq_some_iff, hvalue]
      by_cases hle : p.integer.natAbs ≤ bound
      · rw [Split.value_of_natAbs_le hle]
      · -- Neither the integer nor the bound in its place is the number of a level.
        have hlevel : l.number ≤ 4 := by cases l <;> decide
        rw [Split.value_of_lt_natAbs (Nat.lt_of_not_le hle)]
        unfold bound at hle ⊢
        rcases Int.lt_trichotomy p.integer 0 with hneg | hzero | hpos
        · rw [Int.sign_eq_neg_one_of_neg hneg]
          omega
        · omega
        · rw [Int.sign_eq_one_of_pos hpos]
          omega

/-- Zeros in front do not count, and a run that is too great keeps its sign. -/
example : scan "\u3000-0000000000000000000000007é" = .ok (some (-7)) ∧
    scan "-9223372036854775808" = .ok (some (-9223372036854775807)) := by
  decide +kernel

end LspAdapter.LeadingInteger
