import LspAdapter.Proofs.Config.Settings
import Mathlib.Data.List.Forall2
/-!
# Which names are verbosities, and what they depend on

A name stands for a verbosity if the two agree letter by letter, where a letter of ASCII
may be a capital or a small one and any other character must be the very same.  A log
file turns a verbosity that is off into the normal one, and no other.

Each part of the settings is a function of the arguments that it is read from, so two
sets of arguments that agree there agree on that part, and the arguments that no part is
read from change nothing.
-/

namespace LspAdapter

namespace Text

def IsCapitalOf (c d : Char) : Prop :=
  'A'.toNat ≤ c.toNat ∧ c.toNat ≤ 'Z'.toNat ∧ d.toNat = c.toNat + ('a'.toNat - 'A'.toNat)

/-- Whether two characters are the same, the case of a letter of ASCII aside. -/
def SameLetter (c d : Char) : Prop :=
  c = d ∨ IsCapitalOf c d ∨ IsCapitalOf d c

theorem toNat_toLower (c : Char) :
    c.toLower.toNat = if 65 ≤ c.toNat ∧ c.toNat ≤ 90 then c.toNat + 32 else c.toNat := by
  have hcapital : (c.val ≥ 'A'.val ∧ c.val ≤ 'Z'.val) ↔ 65 ≤ c.toNat ∧ c.toNat ≤ 90 := by
    rw [ge_iff_le, UInt32.le_iff_toNat_le, UInt32.le_iff_toNat_le]
    rfl
  by_cases h : 65 ≤ c.toNat ∧ c.toNat ≤ 90
  · have hsum : (c.val + ('a'.val - 'A'.val)).toNat = c.toNat + 32 := by
      rw [UInt32.toNat_add]
      show (c.toNat + 32) % 2 ^ 32 = c.toNat + 32
      omega
    delta Char.toLower
    rw [if_pos h, ← hsum, dif_pos (hcapital.2 h)]
    rfl
  · delta Char.toLower
    rw [if_neg h, dif_neg (fun hval => h (hcapital.1 hval))]

theorem sameLetter_iff {c d : Char} : SameLetter c d ↔ c.toLower = d.toLower := by
  have hA : 'A'.toNat = 65 := rfl
  have hZ : 'Z'.toNat = 90 := rfl
  have ha : 'a'.toNat = 97 := rfl
  rw [SameLetter, IsCapitalOf, IsCapitalOf, hA, hZ, ha, ← Char.toNat_inj, ← Char.toNat_inj,
    toNat_toLower, toNat_toLower]
  split
  · split <;> omega
  · split <;> omega

theorem forall₂_sameLetter_iff {cs ds : List Char} :
    List.Forall₂ SameLetter cs ds ↔ cs.map Char.toLower = ds.map Char.toLower := by
  rw [← List.forall₂_eq_eq_eq, List.forall₂_map_left_iff, List.forall₂_map_right_iff]
  simp only [← sameLetter_iff]

end Text

namespace Verbosity

def IsSpelledBy (v : Verbosity) (s : String) : Prop :=
  List.Forall₂ Text.SameLetter s.toList v.name.toList

theorem isSpelledBy_iff {v : Verbosity} {s : String} :
    v.IsSpelledBy s ↔ s.toList.map Char.toLower = v.name.toList := by
  have hsmall : v.name.toList.map Char.toLower = v.name.toList := by
    cases v <;> decide
  rw [IsSpelledBy, Text.forall₂_sameLetter_iff, hsmall]

theorem named?_eq_some_iff {s : String} {v : Verbosity} :
    named? s = some v ↔ s.toList.map Char.toLower = v.name.toList := by
  constructor
  · intro h
    have hname := List.find?_some h
    exact of_decide_eq_true hname
  · intro h
    rw [named?, h]
    cases v <;> decide

theorem ofName_of_lower {s : String} {v : Verbosity}
    (h : s.toList.map Char.toLower = v.name.toList) : ofName s = v := by
  rw [ofName, named?_eq_some_iff.2 h]
  rfl

/-- Only a name of a verbosity that is on gives one that is on. -/
theorem isSpelledBy_of_ofName {s : String} {v : Verbosity} (h : ofName s = v) (hon : v ≠ .off) :
    v.IsSpelledBy s := by
  rw [ofName] at h
  cases hnamed : named? s with
  | none =>
      rw [hnamed] at h
      exact absurd h.symm hon
  | some w =>
      rw [hnamed] at h
      obtain rfl : w = v := h
      exact isSpelledBy_iff.2 (named?_eq_some_iff.1 hnamed)

end Verbosity

namespace Settings

variable {name logFile : Option String}

/-! ## The repair -/

theorem resolveVerbosity_of_lower {v : Verbosity} {name : String}
    (h : name.toList.map Char.toLower = v.name.toList) (hlog : logFile = none ∨ v ≠ .off) :
    resolveVerbosity (some name) logFile = v := by
  simp only [resolveVerbosity, Option.map_some, Option.getD_some, Verbosity.ofName_of_lower h]
  rcases hlog with rfl | hne
  · rfl
  · simp [hne]

theorem resolveVerbosity_of_not_isSpelledBy
    (h : ∀ s, name = some s → ∀ v : Verbosity, v ≠ .off → ¬v.IsSpelledBy s) :
    resolveVerbosity name logFile = if logFile.isSome then .normal else .off := by
  have hoff : (name.map Verbosity.ofName).getD .off = .off := by
    cases name with
    | none => rfl
    | some s =>
        show Verbosity.ofName s = .off
        by_contra hon
        exact h s rfl _ hon (Verbosity.isSpelledBy_of_ofName rfl hon)
  simp only [resolveVerbosity, hoff, decide_true, Bool.and_true]

/-- A log file is not left without a verbosity. -/
theorem resolveVerbosity_ne_off (name : Option String) (file : String) :
    resolveVerbosity name (some file) ≠ .off := by
  simp only [resolveVerbosity, Option.isSome_some, Bool.true_and, decide_eq_true_eq]
  split
  · decide
  · assumption

/-! ## What each part is read from -/

variable {a b : Arguments}

theorem resolveTo_tsserverPath (sink : Sink) (a : Arguments) :
    (resolveTo sink a).1.tsserverPath = a.tsserverPath := by
  rw [resolveTo_eq]
  rfl

theorem resolveTo_verbosity (sink : Sink) (a : Arguments) :
    (resolveTo sink a).1.verbosity = resolveVerbosity a.verbosity a.tsserverLogFile := by
  rw [resolveTo_eq]
  rfl

theorem resolveTo_messageLevel (sink : Sink) (a : Arguments) :
    (resolveTo sink a).1.messageLevel = (resolveLevel a.logLevel).1 := by
  rw [resolveTo_eq]
  rfl

theorem resolveTo_snd_congr (sink : Sink) (h : a.logLevel = b.logLevel) :
    (resolveTo sink a).2 = (resolveTo sink b).2 := by
  have hwarning : ∀ a : Arguments, (resolve a).2 = (resolveLevel a.logLevel).2 := fun _ => rfl
  rw [resolveTo_eq, resolveTo_eq, hwarning, hwarning, h]

/-- Whether there is a log file is all that a verbosity takes from it. -/
theorem resolveVerbosity_congr {file file' : Option String} (h : file.isSome = file'.isSome) :
    resolveVerbosity name file = resolveVerbosity name file' := by
  rw [resolveVerbosity, resolveVerbosity, h]

end Settings

/-- The verbosity that the arguments give. A name of a verbosity other than `off` gives
that one, in upper or lower case; in all other cases a log file, even one without a name,
gives the normal one. The path is as it was given, the level and the diagnostics depend
on the level that was asked for alone, and neither the channel nor the directory of the
logs matters. -/
theorem verbosity_resolved (sink : Sink) (a : Arguments) :
    let r := Settings.resolveTo sink a
    (∀ s, a.verbosity = some s → ∀ v : Verbosity, v ≠ .off → v.IsSpelledBy s →
      r.1.verbosity = v) ∧
    ((∀ s, a.verbosity = some s → ∀ v : Verbosity, v ≠ .off → ¬v.IsSpelledBy s) →
      r.1.verbosity = if a.tsserverLogFile.isSome then .normal else .off) ∧
    (a.tsserverLogFile.isSome → r.1.verbosity ≠ .off) ∧
    r.1.tsserverPath = a.tsserverPath ∧
    (∀ b : Arguments, a.logLevel = b.logLevel →
      r.1.messageLevel = (Settings.resolveTo sink b).1.messageLevel ∧
        r.2 = (Settings.resolveTo sink b).2) ∧
    (∀ b : Arguments, a.verbosity = b.verbosity →
      a.tsserverLogFile.isSome = b.tsserverLogFile.isSome →
        r.1.verbosity = (Settings.resolveTo sink b).1.verbosity) ∧
    ∀ (stdio : Bool) (logDirectory : Option String),
      Settings.resolveTo sink { a with stdio := stdio, logDirectory := logDirectory } = r := by
  intro r
  have hverbosity : r.1.verbosity = _ := Settings.resolveTo_verbosity sink a
  refine ⟨fun s hs v hon hspelled => ?_, fun hnone => ?_, fun hlog => ?_,
    Settings.resolveTo_tsserverPath sink a, fun b hlevel => ⟨?_, ?_⟩, fun b hname hlog => ?_,
    fun stdio logDirectory => rfl⟩
  · have hlower := Verbosity.isSpelledBy_iff.1 hspelled
    rw [hverbosity, hs]
    exact Settings.resolveVerbosity_of_lower hlower (.inr hon)
  · rw [hverbosity]
    exact Settings.resolveVerbosity_of_not_isSpelledBy hnone
  · obtain ⟨file, hfile⟩ := Option.isSome_iff_exists.1 hlog
    rw [hverbosity, hfile]
    exact Settings.resolveVerbosity_ne_off a.verbosity file
  · have hmessageLevel : r.1.messageLevel = _ := Settings.resolveTo_messageLevel sink a
    rw [hmessageLevel, Settings.resolveTo_messageLevel, hlevel]
  · exact Settings.resolveTo_snd_congr sink hlevel
  · rw [hverbosity, Settings.resolveTo_verbosity, hname]
    exact Settings.resolveVerbosity_congr hlog

/-- The long s is not a letter of ASCII. -/
example : (Settings.resolveTo .unlimited
    ⟨true, none, some "terſe", none, some "", none⟩).1.verbosity = .normal := by
  decide

end LspAdapter
