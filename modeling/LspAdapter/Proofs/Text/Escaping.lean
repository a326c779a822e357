import LspAdapter.Text.Escaping
/-!
# Reading escaped texts back

Whatever an escaping escapes, its written form is read back as the text it was made
from, so no two texts share one.  A character that is always escaped stands only where
a backslash in front of it opens an escape, and a written form shows no control and no
separator but the space if the escaping lets none of them stand for itself.

* `unescape_write` — the text comes back;
* `guards_write` — where an escaped character may stand;
* `forall_mem_write` — what a written form is made of.
-/

namespace LspAdapter.Text.Escaping

variable (e : Escaping)

/-! ## One character -/

theorem meaning?_of_letter? {c l : Char} (h : e.letter? c = some l) :
    meaning? l = some c ∧ l ≠ 'u' := by
  unfold letter? at h
  split at h
  case h_7 =>
    split at h
    · cases h
      exact ⟨rfl, by decide⟩
    · cases h
  case h_8 => cases h
  all_goals
    cases h
    exact ⟨rfl, by decide⟩

theorem ne_backslash_of_letter? {c : Char} (h : e.letter? c = none) : c ≠ '\\' := by
  rintro rfl
  cases h

theorem hexValue?_digitChar : ∀ {d : Nat}, d < 16 → hexValue? d.digitChar = some d := by
  decide

theorem digitChar_ne_brace : ∀ {d : Nat}, d < 16 → d.digitChar ≠ '}' := by
  decide

/-- Hexadecimal digits inside the braces give the number they are written for. -/
theorem unescapeFrom_toDigits (n : Nat) (cs : List Char) :
    unescapeFrom (.digits 0) (Nat.toDigits 16 n ++ cs) = unescapeFrom (.digits n) cs := by
  have hstep : ∀ {v d : Nat} (cs : List Char), d < 16 →
      unescapeFrom (.digits v) (d.digitChar :: cs) = unescapeFrom (.digits (16 * v + d)) cs := by
    intro v d cs hd
    rw [unescapeFrom, if_neg (digitChar_ne_brace hd), hexValue?_digitChar hd, Option.bind_some]
  -- On all the digits but the last, which are those of a smaller number.
  induction n using Nat.strongRecOn generalizing cs with
  | ind n ih =>
      rw [Nat.toDigits_eq_if (by decide)]
      by_cases hn : n < 16
      · rw [if_pos hn, List.singleton_append, hstep cs hn, Nat.mul_zero, Nat.zero_add]
      · have hlast : n % 16 < 16 := Nat.mod_lt n (by decide)
        rw [if_neg hn, List.append_assoc, List.singleton_append, ih (n / 16) (by omega),
          hstep cs hlast, Nat.div_add_mod]

/-- The written form of a character is read as that character. -/
theorem unescapeFrom_char (front : Bool) (c : Char) (cs : List Char) :
    unescapeFrom .outside (e.char front c ++ cs) = (unescapeFrom .outside cs).map (c :: ·) := by
  unfold char
  cases hl : e.letter? c with
  | some l =>
      obtain ⟨hmeaning, hne⟩ := e.meaning?_of_letter? hl
      simp only [List.cons_append, List.nil_append]
      rw [unescapeFrom, if_pos rfl, unescapeFrom, if_neg hne, hmeaning, Option.bind_some]
  | none =>
      simp only
      split
      · rw [List.singleton_append, unescapeFrom, if_neg (e.ne_backslash_of_letter? hl)]
      · have hopen : codePoint c ++ cs = '\\' :: 'u' :: '{' ::
            (Nat.toDigits 16 c.toNat ++ '}' :: cs) := by
          simp [codePoint]
        rw [hopen, unescapeFrom, if_pos rfl, unescapeFrom, if_pos rfl, unescapeFrom, if_pos rfl,
          unescapeFrom_toDigits, unescapeFrom, if_pos rfl, Char.ofNat_toNat]

/-! ## Whole texts -/

theorem unescape_flatMap (cs : List Char) :
    unescape (cs.flatMap (e.char false)) = some cs := by
  induction cs with
  | nil => rfl
  | cons c cs ih =>
      rw [unescape] at ih ⊢
      rw [List.flatMap_cons, unescapeFrom_char, ih]
      rfl

/-- A written form is read back as the text it was made from. -/
theorem unescape_write (cs : List Char) : unescape (e.write cs) = some cs := by
  cases cs with
  | nil => rfl
  | cons c cs =>
      have hrest := e.unescape_flatMap cs
      rw [unescape] at hrest ⊢
      rw [write, unescapeFrom_char, hrest]
      rfl

theorem write_inj {cs ds : List Char} : e.write cs = e.write ds ↔ cs = ds := by
  constructor
  · intro h
    have hread := e.unescape_write cs
    rw [h, unescape_write, Option.some_inj] at hread
    exact hread.symm
  · rintro rfl
    rfl

/-- What follows a text that is read to its end is read by itself. -/
theorem unescapeFrom_append {p : Progress} {cs xs : List Char} (h : unescapeFrom p cs = some xs)
    (ds : List Char) :
    unescapeFrom p (cs ++ ds) = (unescapeFrom .outside ds).map (xs ++ ·) := by
  fun_induction unescapeFrom p cs generalizing xs with
  | case1 =>
      cases h
      simp
  | case2 => cases h
  | case3 cs ih => rw [List.cons_append, unescapeFrom, if_pos rfl, ih h]
  | case4 c cs hne ih =>
      obtain ⟨ys, hys, rfl⟩ := Option.map_eq_some_iff.1 h
      rw [List.cons_append, unescapeFrom, if_neg hne, ih hys, Option.map_map]
      rfl
  | case5 cs ih => rw [List.cons_append, unescapeFrom, if_pos rfl, ih h]
  | case6 c cs hne ih =>
      obtain ⟨m, hm, hrest⟩ := Option.bind_eq_some_iff.1 h
      obtain ⟨ys, hys, rfl⟩ := Option.map_eq_some_iff.1 hrest
      rw [List.cons_append, unescapeFrom, if_neg hne, hm, Option.bind_some, ih hys,
        Option.map_map]
      rfl
  | case7 cs ih => rw [List.cons_append, unescapeFrom, if_pos rfl, ih h]
  | case8 => cases h
  | case9 n cs ih =>
      obtain ⟨ys, hys, rfl⟩ := Option.map_eq_some_iff.1 h
      rw [List.cons_append, unescapeFrom, if_pos rfl, ih hys, Option.map_map]
      rfl
  | case10 n c cs hne ih =>
      obtain ⟨d, hd, hrest⟩ := Option.bind_eq_some_iff.1 h
      rw [List.cons_append, unescapeFrom, if_neg hne, hd, Option.bind_some, ih d hrest]

/-! ## Characters that are always escaped -/

/-- Whether a character stands only where a backslash in front of it opens an escape. -/
def Guards (d : Char) (cs : List Char) : Prop :=
  ∀ before after, cs = before ++ d :: after →
    ∃ front, before = front ++ ['\\'] ∧ (unescape front).isSome = true

/-- A text that is read to its end does not break off behind a backslash that opens an
escape. -/
theorem unescape_snoc_backslash {cs : List Char} (h : (unescape cs).isSome = true) :
    unescape (cs ++ ['\\']) = none := by
  obtain ⟨xs, hxs⟩ := Option.isSome_iff_exists.1 h
  rw [unescape, unescapeFrom_append hxs]
  rfl

/-- Behind a text that is read to its end a guarded character is not met. -/
theorem Guards.eq_nil {d : Char} {cs more as bs : List Char} (h : Guards d (cs ++ more))
    (hread : (unescape cs).isSome = true) (heq : d :: as = more ++ d :: bs) : more = [] := by
  cases more with
  | nil => rfl
  | cons m more =>
      obtain ⟨rfl, -⟩ := List.cons.inj heq
      obtain ⟨front, rfl, hfront⟩ := h cs more rfl
      rw [unescape_snoc_backslash hfront] at hread
      cases hread

/-- A text that guards a character is told from what follows by that character. -/
theorem Guards.unique {d : Char} {cs ds as bs : List Char} (hcs : Guards d cs)
    (hds : Guards d ds) (hreadcs : (unescape cs).isSome = true)
    (hreadds : (unescape ds).isSome = true) (h : cs ++ d :: as = ds ++ d :: bs) : cs = ds := by
  rcases List.append_eq_append_iff.1 h with ⟨more, rfl, heq⟩ | ⟨more, rfl, heq⟩
  · rw [hds.eq_nil hreadcs heq, List.append_nil]
  · rw [hcs.eq_nil hreadds heq, List.append_nil]

theorem exists_digitChar_of_mem {n : Nat} {c : Char} (h : c ∈ Nat.toDigits 16 n) :
    ∃ d, d < 16 ∧ c = d.digitChar := by
  induction n using Nat.strongRecOn with
  | ind n ih =>
      rw [Nat.toDigits_eq_if (by decide)] at h
      by_cases hn : n < 16
      · rw [if_pos hn, List.mem_singleton] at h
        exact ⟨n, hn, h⟩
      · rw [if_neg hn, List.mem_append, List.mem_singleton] at h
        rcases h with h | h
        · exact ih (n / 16) (by omega) h
        · exact ⟨n % 16, Nat.mod_lt n (by decide), h⟩

/-- A property that the signs of an escape and all hexadecimal digits have is one of
every code point in hexadecimal. -/
theorem forall_mem_codePoint {p : Char → Prop} (hsigns : ∀ d ∈ ['\\', 'u', '{', '}'], p d)
    (hdigits : ∀ d < 16, p d.digitChar) (c : Char) : ∀ d ∈ codePoint c, p d := by
  intro d hd
  simp only [codePoint, List.mem_append] at hd
  rcases hd with (hd | hd) | hd
  · exact hsigns d (List.mem_append_left ['}'] hd)
  · obtain ⟨v, hv, rfl⟩ := exists_digitChar_of_mem hd
    exact hdigits v hv
  · exact hsigns d (List.mem_append_right ['\\', 'u', '{'] hd)

/-- An apostrophe occurs in the written form of a character as its own escape only. -/
theorem eq_backslash_of_char_eq (hapostrophe : e.apostrophe = true) {front : Bool} {c : Char}
    {before after : List Char} (h : e.char front c = before ++ '\'' :: after) :
    before = ['\\'] := by
  have hmem : '\'' ∈ e.char front c := by
    rw [h]
    simp
  unfold char at h hmem
  cases hl : e.letter? c with
  | some l =>
      rw [hl] at h
      cases before with
      | nil => cases h
      | cons b before =>
          obtain ⟨rfl, hrest⟩ := List.cons.inj h
          cases before with
          | nil => rfl
          | cons b' before => simp at hrest
  | none =>
      have hne : '\'' ≠ c := by
        rintro rfl
        simp [letter?, hapostrophe] at hl
      have hcode : '\'' ∉ codePoint c := fun hin =>
        forall_mem_codePoint (p := (· ≠ '\'')) (by simp) (by decide) c _ hin rfl
      rw [hl] at hmem
      simp only at hmem
      split at hmem
      · exact absurd (List.mem_singleton.1 hmem) hne
      · exact absurd hmem hcode

theorem guards_char_append (hapostrophe : e.apostrophe = true) (front : Bool) (c : Char)
    {cs : List Char} (h : Guards '\'' cs) : Guards '\'' (e.char front c ++ cs) := by
  intro before after heq
  rcases List.append_eq_append_iff.1 heq with ⟨more, rfl, hcs⟩ | ⟨more, hchar, hrest⟩
  · obtain ⟨front', rfl, hread⟩ := h more after hcs
    obtain ⟨xs, hxs⟩ := Option.isSome_iff_exists.1 hread
    refine ⟨e.char front c ++ front', (List.append_assoc _ _ _).symm, ?_⟩
    rw [unescape] at hxs ⊢
    rw [unescapeFrom_char, hxs]
    rfl
  · cases more with
    | nil =>
        obtain ⟨front', hfront, -⟩ := h [] after hrest.symm
        simp at hfront
    | cons m more =>
        obtain ⟨rfl, -⟩ := List.cons.inj hrest
        exact ⟨[], e.eq_backslash_of_char_eq hapostrophe hchar, rfl⟩

/-- An apostrophe stands in a written form only behind a backslash that escapes it. -/
theorem guards_write (hapostrophe : e.apostrophe = true) (cs : List Char) :
    Guards '\'' (e.write cs) := by
  have hnil : Guards '\'' [] := by
    intro before after heq
    simp at heq
  have hinside : ∀ cs : List Char, Guards '\'' (cs.flatMap (e.char false)) := by
    intro cs
    induction cs with
    | nil => exact hnil
    | cons c cs ih => exact e.guards_char_append hapostrophe false c ih
  cases cs with
  | nil => exact hnil
  | cons c cs => exact e.guards_char_append hapostrophe true c (hinside cs)

/-! ## Characters that are shown -/

theorem mem_of_meaning? {l c : Char} (h : meaning? l = some c) :
    l ∈ ['0', 't', 'n', 'r', '\\', '"', '\''] := by
  unfold meaning? at h
  split at h
  case h_8 => cases h
  all_goals decide

/-- What a written form is made of: characters that stand for themselves and those of
escapes. -/
theorem forall_mem_write {p : Char → Prop} (hplain : ∀ c, e.plain c = true → p c)
    (hsigns : ∀ d ∈ ['\\', 'u', '{', '}'], p d) (hdigits : ∀ d < 16, p d.digitChar)
    (hletters : ∀ d ∈ ['0', 't', 'n', 'r', '\\', '"', '\''], p d) (cs : List Char) :
    ∀ d ∈ e.write cs, p d := by
  have hchar : ∀ front c, ∀ d ∈ e.char front c, p d := by
    intro front c d hd
    unfold char at hd
    cases hl : e.letter? c with
    | some l =>
        rw [hl] at hd
        rcases List.mem_cons.1 hd with rfl | hd
        · exact hsigns _ List.mem_cons_self
        · rw [List.mem_singleton.1 hd]
          exact hletters l (mem_of_meaning? (e.meaning?_of_letter? hl).1)
    | none =>
        rw [hl] at hd
        simp only at hd
        split at hd
        next hc =>
          rw [List.mem_singleton.1 hd]
          exact hplain c (Bool.and_eq_true_iff.1 hc).1
        next => exact forall_mem_codePoint hsigns hdigits c d hd
  cases cs with
  | nil => nofun
  | cons c cs =>
      intro d hd
      rw [write, List.mem_append, List.mem_flatMap] at hd
      rcases hd with hd | ⟨b, -, hd⟩
      · exact hchar true c d hd
      · exact hchar false b d hd

end LspAdapter.Text.Escaping
