import LspAdapter.CommandLine.Argument
import LspAdapter.CommandLine.Flag
import LspAdapter.Proofs.Text.Utf8
/-!
# How arguments are spelled

An argument that spells a flag is made of two hyphens, the name of the flag and,
behind an equals sign, a value.  An argument that spells nothing of the kind is a
plain word.  Names and values are texts here, and a text is written in one way only.
-/

namespace LspAdapter

namespace Text.Utf8

/-- The first byte of a character is that of an ASCII character only if it is that
character. -/
theorem head_encodeChar {c : Char} {b : UInt8} {bs : List UInt8} (hb : b.toNat < 0x80)
    (h : String.utf8EncodeChar c = b :: bs) : c = Char.ofNat b.toNat ∧ bs = [] := by
  have hseq := sequence_encodeChar c
  rw [h] at hseq
  cases hseq with
  | one a ha => exact ⟨rfl, rfl⟩
  | two a b ha => omega
  | three a b c ha => omega
  | four a b c d ha => omega

end Text.Utf8

namespace CommandLine

open Text.Utf8 (encode)

namespace Flag

theorem named?_eq_some_iff {name : String} {f : Flag} : named? name = some f ↔ name = f.name := by
  constructor
  · intro h
    have hname := List.find?_some h
    exact (of_decide_eq_true hname).symm
  · rintro rfl
    rcases f with _ | _ | _ | f
    · rfl
    · rfl
    · rfl
    · cases f <;> rfl

theorem name_inj {f g : Flag} : f.name = g.name ↔ f = g := by
  constructor
  · intro h
    have hf := named?_eq_some_iff.2 (rfl : f.name = f.name)
    rw [named?_eq_some_iff.2 h, Option.some_inj] at hf
    exact hf.symm
  · rintro rfl
    rfl

end Flag

namespace Argument

theorem eq_ofText_iff {a : Argument} {s : String} : a = .ofText s ↔ a.bytes = encode s := by
  cases a
  rw [ofText, mk.injEq]

theorem text?_eq_some_iff {a : Argument} {s : String} : a.text? = some s ↔ a = .ofText s := by
  rw [text?, Text.Utf8.decode?_eq_some_iff, eq_ofText_iff]

@[simp] theorem text?_ofText (s : String) : (ofText s).text? = some s :=
  text?_eq_some_iff.2 rfl

theorem ofText_inj {s t : String} : ofText s = ofText t ↔ s = t := by
  rw [← text?_eq_some_iff, text?_ofText, Option.some_inj]

/-! ## Values behind an equals sign -/

def valueBytes : Option Argument → List UInt8
  | none => []
  | some v => equalsSign :: v.bytes

theorem splitValue_append {name : List UInt8} (h : equalsSign ∉ name) (value : Option Argument) :
    splitValue (name ++ valueBytes value) = (name, value) := by
  have hname : ∀ b ∈ name, decide (b ≠ equalsSign) = true := by
    intro b hb
    exact decide_eq_true fun heq => h (heq ▸ hb)
  unfold splitValue
  rw [List.dropWhile_append_of_pos hname, List.takeWhile_append_of_pos hname]
  cases value with
  | none => simp [valueBytes]
  | some v => simp [valueBytes]

theorem eq_append_of_splitValue {bytes name : List UInt8} {value : Option Argument}
    (h : splitValue bytes = (name, value)) :
    equalsSign ∉ name ∧ bytes = name ++ valueBytes value := by
  have hbytes := List.takeWhile_append_dropWhile (p := (· ≠ equalsSign)) (l := bytes)
  have hname : equalsSign ∉ bytes.takeWhile (· ≠ equalsSign) := by
    intro hmem
    have hall := List.all_takeWhile (p := (· ≠ equalsSign)) (l := bytes)
    simpa using List.all_eq_true.1 hall _ hmem
  unfold splitValue at h
  cases hrest : bytes.dropWhile (· ≠ equalsSign) with
  | nil =>
      rw [hrest] at h hbytes
      cases h
      rw [List.append_nil] at hbytes
      rw [hbytes] at hname
      exact ⟨hname, (List.append_nil _).symm⟩
  | cons b rest =>
      have hb : b = equalsSign := by
        have hhead := List.head?_dropWhile_not (· ≠ equalsSign) bytes
        rw [hrest] at hhead
        simpa using hhead
      subst hb
      rw [hrest] at h hbytes
      cases h
      exact ⟨hname, hbytes.symm⟩

/-! ## Spellings -/

inductive Spelled : List UInt8 → Spelling → Prop
  | empty : Spelled [] .word
  | hyphen : Spelled [hyphen] .word
  | word (b : UInt8) (rest : List UInt8) : b ≠ hyphen → Spelled (b :: rest) .word
  | short (b : UInt8) (rest : List UInt8) : b ≠ hyphen →
      Spelled (CommandLine.hyphen :: b :: rest) (.short (b :: rest))
  | terminator : Spelled [CommandLine.hyphen, CommandLine.hyphen] .terminator
  | long (name : List UInt8) (value : Option Argument) : equalsSign ∉ name →
      name ++ valueBytes value ≠ [] →
      Spelled (CommandLine.hyphen :: CommandLine.hyphen :: (name ++ valueBytes value))
        (.long name value)

theorem spelled_spelling (a : Argument) : Spelled a.bytes a.spelling := by
  obtain ⟨bytes⟩ := a
  cases bytes with
  | nil => exact .empty
  | cons b rest =>
      by_cases hb : b = hyphen
      · subst hb
        cases rest with
        | nil => exact .hyphen
        | cons c rest =>
            by_cases hc : c = hyphen
            · subst hc
              cases rest with
              | nil => exact .terminator
              | cons d rest =>
                  obtain ⟨name, value, hsplit⟩ :
                      ∃ name value, splitValue (d :: rest) = (name, value) := ⟨_, _, rfl⟩
                  obtain ⟨hname, hbytes⟩ := eq_append_of_splitValue hsplit
                  have hspelling : spelling ⟨hyphen :: hyphen :: d :: rest⟩ = .long name value := by
                    simp [spelling, hsplit]
                  have hlong := Spelled.long name value hname (by simp [← hbytes])
                  rw [hspelling]
                  rwa [← hbytes] at hlong
            · simp only [spelling, ne_eq, not_true, if_false, hc, not_false_eq_true, if_true]
              exact .short c rest hc
      · simp only [spelling, ne_eq, hb, not_false_eq_true, if_true]
        exact .word b rest hb

theorem Spelled.spelling_eq {bytes : List UInt8} {s : Spelling} (h : Spelled bytes s) :
    spelling ⟨bytes⟩ = s := by
  cases h with
  | empty => rfl
  | hyphen => rfl
  | word b rest hb => simp [spelling, hb]
  | short b rest hb => simp [spelling, hb]
  | terminator => rfl
  | long name value hname hne =>
      have hempty : (name ++ valueBytes value).isEmpty = false := by
        cases hbytes : name ++ valueBytes value with
        | nil => exact absurd hbytes hne
        | cons b rest => rfl
      simp [spelling, hempty, splitValue_append hname]

theorem eq_ofText_of_terminator {a : Argument} (h : a.spelling = .terminator) :
    a = .ofText "--" := by
  obtain ⟨bytes⟩ := a
  have hspelled := spelled_spelling ⟨bytes⟩
  rw [h] at hspelled
  cases hspelled
  rfl

theorem spelling_terminator : (ofText "--").spelling = .terminator := rfl

theorem spelling_eq_word_iff (a : Argument) :
    a.spelling = .word ↔ a.bytes = [] ∨ a.bytes = [hyphen] ∨ a.bytes.head? ≠ some hyphen := by
  obtain ⟨bytes⟩ := a
  constructor
  · intro h
    have hspelled := spelled_spelling ⟨bytes⟩
    rw [h] at hspelled
    cases hspelled with
    | empty => exact .inl rfl
    | hyphen => exact .inr (.inl rfl)
    | word b rest hb => exact .inr (.inr fun heq => hb (Option.some.inj heq))
  · rintro (rfl | rfl | h)
    · rfl
    · rfl
    · cases bytes with
      | nil => rfl
      | cons b rest => exact (Spelled.word b rest fun hb => h (congrArg some hb)).spelling_eq

/-! ## Plain words -/

/-- Whether a text can only be meant as a value: it is empty, a lone hyphen, or does
not begin with a hyphen. -/
def IsWord (s : String) : Prop :=
  s = "" ∨ s = "-" ∨ s.toList.head? ≠ some '-'

theorem head?_encode_eq_hyphen_iff (s : String) :
    (encode s).head? = some hyphen ↔ s.toList.head? = some '-' := by
  rw [encode]
  cases s.toList with
  | nil => simp
  | cons c cs =>
      obtain ⟨b, bs, hb⟩ := List.exists_cons_of_ne_nil (String.utf8EncodeChar_ne_nil (c := c))
      rw [List.flatMap_cons, hb, List.cons_append, List.head?_cons, List.head?_cons,
        Option.some_inj, Option.some_inj]
      constructor
      · rintro rfl
        exact (Text.Utf8.head_encodeChar (by decide) hb).1
      · rintro rfl
        exact (List.cons.inj hb).1.symm

theorem spelling_ofText_eq_word_iff (s : String) : (ofText s).spelling = .word ↔ IsWord s := by
  have hempty : encode s = [] ↔ s = "" := Text.Utf8.encode_inj (t := "")
  have hlone : encode s = [hyphen] ↔ s = "-" := Text.Utf8.encode_inj (t := "-")
  rw [spelling_eq_word_iff, ofText, hempty, hlone, Ne, head?_encode_eq_hyphen_iff]
  rfl

/-! ## Flags -/

theorem equalsSign_not_mem_name (f : Flag) : equalsSign ∉ encode f.name := by
  rcases f with _ | _ | _ | f
  · decide
  · decide
  · decide
  · cases f <;> decide

theorem encode_name_ne_nil (f : Flag) : encode f.name ≠ [] := by
  rcases f with _ | _ | _ | f
  · decide
  · decide
  · decide
  · cases f <;> decide

theorem spelling_eq_long_iff (a : Argument) (f : Flag) (value : Option Argument) :
    a.spelling = .long (encode f.name) value ↔
      a.bytes = hyphen :: hyphen :: (encode f.name ++ valueBytes value) := by
  obtain ⟨bytes⟩ := a
  constructor
  · intro h
    have hspelled := spelled_spelling ⟨bytes⟩
    rw [h] at hspelled
    cases hspelled
    rfl
  · rintro rfl
    refine (Spelled.long _ value (equalsSign_not_mem_name f) ?_).spelling_eq
    exact List.append_ne_nil_of_left_ne_nil (encode_name_ne_nil f) _

/-- An argument spells a flag without a value exactly if it is its name behind two
hyphens. -/
theorem spelling_eq_flag_iff (a : Argument) (f : Flag) :
    a.spelling = .long (encode f.name) none ↔ a = .ofText ("--" ++ f.name) := by
  have hhyphens : encode "--" = [hyphen, hyphen] := rfl
  rw [spelling_eq_long_iff, eq_ofText_iff, Text.Utf8.encode_append, hhyphens, valueBytes,
    List.append_nil]
  rfl

/-- An argument spells a flag with a value exactly if both are joined by an equals
sign. -/
theorem spelling_eq_assigned_iff (a : Argument) (f : Flag) (v : String) :
    a.spelling = .long (encode f.name) (some (.ofText v)) ↔
      a = .ofText ("--" ++ f.name ++ "=" ++ v) := by
  have hhyphens : encode "--" = [hyphen, hyphen] := rfl
  have hequals : encode "=" = [equalsSign] := rfl
  rw [spelling_eq_long_iff, eq_ofText_iff, Text.Utf8.encode_append, Text.Utf8.encode_append,
    Text.Utf8.encode_append, hhyphens, hequals, List.append_assoc, List.append_assoc]
  rfl

end Argument

end CommandLine

end LspAdapter
