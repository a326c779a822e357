/-!
# Log levels

Four severities of messages, numbered from the gravest.  A level admits the
messages that are no less grave than itself.
-/

namespace LspAdapter

/-- The severity of a message to the client, and the least grave severity that
a logger still lets through. -/
inductive LogLevel
  | error
  | warn
  | info
  | log
  deriving DecidableEq, Repr

namespace LogLevel

/-- The number of a level; it is also the number of the message type on the
wire. -/
def number : LogLevel → Nat
  | .error => 1
  | .warn => 2
  | .info => 3
  | .log => 4

def ofNumber? (n : Int) : Option LogLevel :=
  if n = 1 then some .error
  else if n = 2 then some .warn
  else if n = 3 then some .info
  else if n = 4 then some .log
  else none

def name : LogLevel → String
  | .error => "error"
  | .warn => "warn"
  | .info => "info"
  | .log => "log"

def standard : LogLevel :=
  .info

instance : Ord LogLevel := ⟨fun a b => compare a.number b.number⟩

instance : LE LogLevel := ⟨fun a b => a.number ≤ b.number⟩

instance (a b : LogLevel) : Decidable (a ≤ b) :=
  inferInstanceAs (Decidable (a.number ≤ b.number))

instance : Max LogLevel := ⟨fun a b => if a ≤ b then b else a⟩

instance : Min LogLevel := ⟨fun a b => if a ≤ b then a else b⟩

def admits (level severity : LogLevel) : Bool :=
  severity ≤ level

@[simp] theorem ofNumber?_number (l : LogLevel) : ofNumber? l.number = some l := by
  cases l <;> rfl

theorem ofNumber?_eq_some_iff {n : Int} {l : LogLevel} :
    ofNumber? n = some l ↔ n = l.number := by
  constructor
  · intro h
    unfold ofNumber? at h
    split at h
    · cases h; assumption
    split at h
    · cases h; assumption
    split at h
    · cases h; assumption
    split at h
    · cases h; assumption
    · cases h
  · rintro rfl
    exact ofNumber?_number l

end LogLevel

end LspAdapter
