import LspAdapter.Proofs.Config.LogLevel
import LspAdapter.Proofs.Text.Escaping
/-!
# What a warning says

A warning is one line, and the value that it is about can be read off it: the value is
escaped between two fixed texts, and since the second of them begins with an apostrophe,
no value can imitate it.  All this holds whatever characters an escaping takes to be
printable, as long as no control and no separator but the space is among them.
-/

namespace LspAdapter

open Text (Escaping isControl isSeparator)
open Text.Utf8 (encode)

namespace Warning

/-- Whether a line names a value as a warning does, `body` being its text in between. -/
structure Names (line : String) (body value : List Char) : Prop where
  framed : line.toList = opening.toList ++ (body ++ closing.toList)
  /-- The line feed at its end is the only control, and the space its only separator. -/
  oneLine : ∃ cs, line.toList = cs ++ ['\n'] ∧
    ∀ c ∈ cs, isControl c = false ∧ isSeparator c = false
  readBack : Escaping.unescape body = some value
  guarded : Escaping.Guards '\'' body
  /-- An apostrophe that is not escaped ends the text in between. -/
  unique (body' rest : List Char) : line.toList = opening.toList ++ (body' ++ '\'' :: rest) →
    Escaping.Guards '\'' body' → (Escaping.unescape body').isSome = true → body' = body

theorem shown_of_all {cs : List Char}
    (h : cs.all (fun c => !isControl c && !isSeparator c) = true) :
    ∀ c ∈ cs, isControl c = false ∧ isSeparator c = false := by
  intro c hc
  have hshown := List.all_eq_true.1 h c hc
  rwa [Bool.and_eq_true_iff, Bool.not_eq_true', Bool.not_eq_true'] at hshown

def Legible (plain : Char → Bool) : Prop :=
  ∀ c, isControl c = true ∨ isSeparator c = true → plain c = false

theorem legible_isPrintable : Legible Text.isPrintable := by
  rintro c (h | h)
  · exact Text.isPrintable_eq_false_of_isControl h
  · exact Text.isPrintable_eq_false_of_isSeparator h

theorem names_of_legible {plain : Char → Bool} (h : Legible plain) (combining : Char → Bool)
    (v : String) :
    let e : Escaping := ⟨plain, combining, true, false⟩
    Names (opening ++ e.text v ++ closing) (e.write v.toList) v.toList := by
  intro e
  have hshown : ∀ c ∈ e.write v.toList, isControl c = false ∧ isSeparator c = false := by
    refine e.forall_mem_write (fun c hc => ?_) (shown_of_all (by decide)) (by decide)
      (shown_of_all (by decide)) v.toList
    rw [← Bool.not_eq_true, ← Bool.not_eq_true, ← not_or]
    intro hor
    exact absurd (h c hor) (ne_false_of_eq_true hc)
  have hframed : (opening ++ e.text v ++ closing).toList =
      opening.toList ++ (e.write v.toList ++ closing.toList) := by
    rw [String.toList_append, String.toList_append, Escaping.text, String.toList_ofList,
      List.append_assoc]
  have hread := e.unescape_write v.toList
  have hguards := e.guards_write rfl v.toList
  refine ⟨hframed, ?_, hread, hguards, ?_⟩
  · refine ⟨opening.toList ++ (e.write v.toList ++ closing.toList.dropLast), ?_, ?_⟩
    · rw [hframed, List.append_assoc, List.append_assoc]
      rfl
    · rw [List.forall_mem_append, List.forall_mem_append]
      exact ⟨shown_of_all (by decide), hshown, shown_of_all (by decide)⟩
  · intro body' rest hline hguards' hread'
    have hclosing : closing.toList = '\'' :: closing.toList.tail := rfl
    rw [hframed, hclosing] at hline
    refine hguards'.unique hguards hread' ?_ (List.append_cancel_left hline).symm
    rw [hread]
    rfl

/-- The line that is written about a value. -/
theorem names_text (v : String) :
    Names (text ⟨v⟩) (escaping.write v.toList) v.toList :=
  names_of_legible legible_isPrintable Text.isCombining v

/-- Warnings about different values are different. -/
theorem text_inj {v w : String} : text ⟨v⟩ = text ⟨w⟩ ↔ v = w := by
  constructor
  · intro h
    have hv := (names_text v).framed
    have hw := (names_text w).framed
    rw [h, hw] at hv
    have hbody := List.append_cancel_right (List.append_cancel_left hv)
    exact String.toList_inj.1 (escaping.write_inj.1 hbody).symm
  · rintro rfl
    rfl

end Warning

/-- What is written about a text that is no level: one line that names it, between the
fixed texts, without loss. Another text is never written about in the same line, and the
line would name the text as well if other characters were taken to be printable, or to be
combining. -/
theorem warning_written {a : Arguments} {v : String} (hv : a.logLevel = some v)
    (hlevel : ∀ l : LogLevel, ¬ l.IsSpelledBy v) :
    (Settings.resolveTo .unlimited a).2.taken = encode (Warning.text ⟨v⟩) ∧
      Warning.Names (Warning.text ⟨v⟩) (Warning.escaping.write v.toList) v.toList ∧
      (∀ b w, b.logLevel = some w → (∀ l : LogLevel, ¬ l.IsSpelledBy w) →
        (Settings.resolveTo .unlimited b).2.taken = (Settings.resolveTo .unlimited a).2.taken →
        w = v) ∧
      ∀ plain combining : Char → Bool, Warning.Legible plain →
        let e : Escaping := ⟨plain, combining, true, false⟩
        Warning.Names (Warning.opening ++ e.text v ++ Warning.closing) (e.write v.toList)
          v.toList := by
  have htaken := Settings.taken_of_not_isSpelledBy hv hlevel
  refine ⟨htaken, Warning.names_text v, fun b w hw hnone h => ?_, ?_⟩
  · rw [htaken, Settings.taken_of_not_isSpelledBy hw hnone, Text.Utf8.encode_inj] at h
    exact Warning.text_inj.1 h
  · intro plain combining hlegible
    exact Warning.names_of_legible hlegible combining v

/-- A value that would end the warning and begin a line of its own. -/
theorem warning_written_forged :
    let v := "'.\n'"
    let a := { Arguments.none with logLevel := some v }
    let line := "Invalid '--log-level \\'.\\n\\''. Falling back to 'info' level.\n"
    a.logLevel = some v ∧ (∀ l : LogLevel, ¬ l.IsSpelledBy v) ∧
      (Settings.resolveTo .unlimited a).2.taken = encode line ∧
      Warning.Names line "\\'.\\n\\'".toList v.toList := by
  intro v a line
  have hnone : ∀ l : LogLevel, ¬ l.IsSpelledBy v := by
    intro l hl
    have hresolved : Settings.resolveLevel (some v) = (.info, some ⟨v⟩) := by decide
    rw [Settings.resolveLevel_of_isSpelledBy hl] at hresolved
    cases hresolved
  have hline : Warning.text ⟨v⟩ = line := by decide +kernel
  have hbody : Warning.escaping.write v.toList = "\\'.\\n\\'".toList := by
    decide +kernel
  obtain ⟨htaken, hnames, -⟩ := warning_written (a := a) rfl hnone
  rw [hline] at htaken hnames
  rw [hbody] at hnames
  exact ⟨rfl, hnone, htaken, hnames⟩

end LspAdapter
