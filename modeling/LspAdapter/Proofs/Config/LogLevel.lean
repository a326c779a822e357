import LspAdapter.Proofs.Config.LeadingInteger
import LspAdapter.Proofs.Config.Settings
/-!
# Which texts are log levels

A text is a log level if it begins with the number of one: blanks, perhaps a plus sign
and zeros may stand in front of it, and anything but another digit behind it.  Every
other text earns one warning and gives the standard level.
-/

namespace LspAdapter

open Text (isBlank)
open Text.Utf8 (encode)

/-- Whether a text begins with the number of a level. -/
def LogLevel.IsSpelledBy (l : LogLevel) (s : String) : Prop :=
  ∃ blanks sign zeros rest : List Char,
    s.toList = blanks ++ (sign ++ (zeros ++ l.number.digitChar :: rest)) ∧
      (∀ c ∈ blanks, isBlank c = true) ∧ (sign = [] ∨ sign = ['+']) ∧ (∀ c ∈ zeros, c = '0') ∧
      ∀ c ∈ rest.head?, c.isDigit = false

/-! ## Numbers of levels -/

theorem LogLevel.number_pos (l : LogLevel) : 0 < l.number := by
  cases l <;> decide

theorem LogLevel.number_lt_ten (l : LogLevel) : l.number < 10 := by
  cases l <;> decide

theorem LeadingInteger.Split.value_eq_iff {p : Split} {n : Nat} (hpos : 0 < n) (hlt : n < bound) :
    p.value = n ↔ p.negative = false ∧ magnitude p.digits = n := by
  unfold value
  cases p.negative with
  | true =>
      simp only [if_true, Bool.true_eq_false, false_and, iff_false]
      omega
  | false =>
      simp only [Bool.false_eq_true, if_false, true_and]
      omega

theorem LeadingInteger.read?_eq_number_iff {s : String} {l : LogLevel} :
    LeadingInteger.read? s = some (l.number : Int) ↔ l.IsSpelledBy s := by
  have hbound : l.number < LeadingInteger.bound := by
    have hlt := l.number_lt_ten
    unfold LeadingInteger.bound
    omega
  rw [LeadingInteger.read?_eq_some_iff]
  constructor
  · rintro ⟨blanks, sign, p, hmade, hne, hvalue⟩
    obtain ⟨hsign, hmagnitude⟩ := (p.value_eq_iff l.number_pos hbound).1 hvalue
    obtain ⟨zeros, hzeros, hdigits⟩ :=
      (LeadingInteger.magnitude_eq_iff hmade.digit hne l.number_lt_ten).1 hmagnitude
    refine ⟨blanks, sign, zeros, p.rest, ?_, hmade.blank, ?_, hzeros, hmade.rest⟩
    · rw [hmade.text, hdigits, List.append_assoc, List.singleton_append]
    · have hplus := hmade.sign
      rw [hsign] at hplus
      cases hplus with
      | absent => exact .inl rfl
      | plus => exact .inr rfl
  · rintro ⟨blanks, sign, zeros, rest, htext, hblanks, hsign, hzeros, hrest⟩
    have hdigit : ∀ c ∈ zeros ++ [l.number.digitChar], c.isDigit = true := by
      rw [List.forall_mem_append, List.forall_mem_singleton]
      refine ⟨fun c hc => ?_, ?_⟩
      · rw [hzeros c hc]
        decide
      · rw [Nat.isDigit_digitChar]
        exact decide_eq_true l.number_lt_ten
    have hne : zeros ++ [l.number.digitChar] ≠ [] := by simp
    refine ⟨blanks, sign, ⟨false, zeros ++ [l.number.digitChar], rest⟩,
      ⟨?_, hblanks, ?_, hdigit, hrest⟩, hne, ?_⟩
    · rw [htext, List.append_assoc, List.singleton_append]
    · rcases hsign with rfl | rfl
      · exact .absent
      · exact .plus
    · rw [LeadingInteger.Split.value_eq_iff l.number_pos hbound]
      refine ⟨rfl, ?_⟩
      rw [LeadingInteger.magnitude_eq_iff hdigit hne l.number_lt_ten]
      exact ⟨zeros, hzeros, rfl⟩

/-! ## The level of the settings -/

namespace Settings

theorem resolveLevel_of_isSpelledBy {s : String} {l : LogLevel} (h : l.IsSpelledBy s) :
    resolveLevel (some s) = (l, none) := by
  simp [resolveLevel, LeadingInteger.read?_eq_number_iff.2 h]

theorem resolveLevel_of_not_isSpelledBy {s : String} (h : ∀ l : LogLevel, ¬ l.IsSpelledBy s) :
    resolveLevel (some s) = (.info, some ⟨s⟩) := by
  have hnone : (LeadingInteger.read? s).bind LogLevel.ofNumber? = none := by
    rw [Option.bind_eq_none_iff]
    intro z hz
    rw [Option.eq_none_iff_forall_ne_some]
    intro l hl
    rw [LogLevel.ofNumber?_eq_some_iff.1 hl] at hz
    exact h l (LeadingInteger.read?_eq_number_iff.1 hz)
  rw [resolveLevel, hnone]
  rfl

/-- A text that is no level is written about in one warning. -/
theorem taken_of_not_isSpelledBy {a : Arguments} {s : String} (hs : a.logLevel = some s)
    (h : ∀ l : LogLevel, ¬ l.IsSpelledBy s) :
    (resolveTo .unlimited a).2.taken = encode (Warning.text ⟨s⟩) := by
  have hwarned : resolveLevel a.logLevel = (.info, some ⟨s⟩) := by
    rw [hs, resolveLevel_of_not_isSpelledBy h]
  rw [resolveTo_of_warned hwarned, Sink.taken_extend]
  exact List.nil_append _

end Settings

/-- The level that the arguments give. A text that is a level gives that level, and
nothing is written; any other text gives the level for information, and one warning is
written. -/
theorem level_resolved (a : Arguments) :
    let r := Settings.resolveTo .unlimited a
    (a.logLevel = none → r.1.messageLevel = .info ∧ r.2.taken = []) ∧
      ∀ s, a.logLevel = some s →
        (∀ l : LogLevel, l.IsSpelledBy s → r.1.messageLevel = l ∧ r.2.taken = []) ∧
          ((∀ l : LogLevel, ¬ l.IsSpelledBy s) →
            r.1.messageLevel = .info ∧ r.2.taken = encode (Warning.text ⟨s⟩)) := by
  intro r
  have hsilent : ∀ l, Settings.resolveLevel a.logLevel = (l, none) →
      r.1.messageLevel = l ∧ r.2.taken = [] := by
    intro l hlevel
    have hr : r = _ := Settings.resolveTo_of_silent hlevel .unlimited
    rw [hr]
    exact ⟨rfl, rfl⟩
  refine ⟨fun hnone => hsilent .info ?_, fun s hs => ⟨fun l hl => hsilent l ?_, fun hl => ?_⟩⟩
  · rw [hnone]
    rfl
  · rw [hs, Settings.resolveLevel_of_isSpelledBy hl]
  · refine ⟨?_, Settings.taken_of_not_isSpelledBy hs hl⟩
    have hwarned : Settings.resolveLevel a.logLevel = (.info, some ⟨s⟩) := by
      rw [hs, Settings.resolveLevel_of_not_isSpelledBy hl]
    have hr : r = _ := Settings.resolveTo_of_warned hwarned
    rw [hr]

end LspAdapter
