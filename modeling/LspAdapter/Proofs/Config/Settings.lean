import LspAdapter.Config.Settings
import LspAdapter.Proofs.Config.Sink
import LspAdapter.Proofs.Text.Utf8
/-!
# Settings and the warning that they earn

The settings are those of the level that the arguments give, and the warning about that
level is all that reaches the sink.  A sink that is soon full gets the beginning of the
warning, and the settings do not depend on it.
-/

namespace LspAdapter

open Text.Utf8 (encode)

/-- A warning is written piece by piece, and the pieces are its text. -/
theorem Warning.flatMap_encode_pieces (w : Warning) :
    w.pieces.flatMap encode = encode w.text := by
  have hsingle : ∀ cs : List Char,
      (cs.map String.singleton).flatMap encode = encode (String.ofList cs) := by
    intro cs
    rw [List.flatMap_map, encode, String.toList_ofList]
    congr 1
    funext c
    rw [encode, String.toList_singleton, List.flatMap_singleton]
  rw [pieces, text, List.cons_append, List.flatMap_cons, List.flatMap_append, hsingle,
    List.flatMap_singleton, Text.Utf8.encode_append, Text.Utf8.encode_append, List.append_assoc]
  rfl

namespace Settings

variable {a : Arguments} {level : LogLevel}

theorem resolve_of_level {warning : Option Warning}
    (h : resolveLevel a.logLevel = (level, warning)) :
    resolve a =
      (⟨a.tsserverPath, resolveVerbosity a.verbosity a.tsserverLogFile, level⟩, warning) := by
  rw [resolve, h]

/-- The pieces of the warning that the arguments earn, if any, are put into the sink, and
the settings are those that result without one. -/
theorem resolveTo_eq (sink : Sink) (a : Arguments) :
    resolveTo sink a =
      ((resolve a).1, (sink.putAll ((resolve a).2.elim [] Warning.pieces)).2) := by
  unfold resolveTo
  rcases resolve a with ⟨settings, warning⟩
  cases warning with
  | none =>
      rw [Option.elim_none, Sink.putAll]
  | some w => rfl

theorem resolveTo_of_silent (h : resolveLevel a.logLevel = (level, none)) (sink : Sink) :
    resolveTo sink a =
      (⟨a.tsserverPath, resolveVerbosity a.verbosity a.tsserverLogFile, level⟩, sink) := by
  rw [resolveTo, resolve_of_level h]

theorem resolveTo_of_warned {w : Warning} (h : resolveLevel a.logLevel = (level, some w)) :
    resolveTo .unlimited a =
      (⟨a.tsserverPath, resolveVerbosity a.verbosity a.tsserverLogFile, level⟩,
        Sink.unlimited.extend none (encode w.text)) := by
  rw [resolveTo, resolve_of_level h]
  simp only [Sink.putAll_of_unlimited (s := .unlimited) rfl, Warning.flatMap_encode_pieces]

/-- A sink with room for `n` bytes changes nothing in the settings and takes the first `n`
bytes of what a sink without a limit takes. The warning is written without a failure only
if all of it fits, and nothing is written after a piece that fails. -/
theorem resolveTo_ofRoom (a : Arguments) (n : Nat) :
    let limited := resolveTo (.ofRoom n) a
    let unlimited := resolveTo .unlimited a
    limited.1 = unlimited.1 ∧
      limited.2.taken = unlimited.2.taken.take n ∧
      limited.2.room = some (n - unlimited.2.taken.length) ∧
      ∀ w, (resolve a).2 = some w →
        (((Sink.ofRoom n).putAll w.pieces).1 = true ↔ unlimited.2.taken.length ≤ n) ∧
        ∀ before more, w.pieces = before ++ more →
          ((Sink.ofRoom n).putAll before).1 = false →
            limited.2 = ((Sink.ofRoom n).putAll before).2 := by
  intro limited unlimited
  have hlimited : limited = _ := resolveTo_eq (.ofRoom n) a
  have hunlimited : unlimited = _ := resolveTo_eq .unlimited a
  rw [hlimited, hunlimited]
  generalize (resolve a).2 = warning
  have hroom := Sink.putAll_of_room (s := .ofRoom n) rfl (warning.elim [] Warning.pieces)
  have htaken : (Sink.unlimited.putAll (warning.elim [] Warning.pieces)).2.taken =
      (warning.elim [] Warning.pieces).flatMap encode := by
    rw [Sink.putAll_of_unlimited rfl, Sink.taken_extend]
    rfl
  refine ⟨rfl, ?_, ?_, ?_⟩
  · rw [htaken, hroom, Sink.taken_extend]
    rfl
  · rw [htaken, hroom]
    rfl
  · rintro w rfl
    refine ⟨?_, fun before more hpieces hfailed => ?_⟩
    · rw [Option.elim_some] at hroom
      rw [htaken, hroom, decide_eq_true_iff, Option.elim_some]
    · rw [Option.elim_some, hpieces, Sink.putAll_of_failed hfailed]

end Settings

end LspAdapter
