import LspAdapter.Handshake.Mismatch
/-!
# Checking the shape of a value

A check says whether a value has a type and, if not, which mismatch shows first.
The fields of an object are looked at in the order in which they stand.
-/

namespace LspAdapter.Handshake

open Json (Value)

abbrev Check := Value → Except Mismatch Unit

namespace Check

def anything : Check :=
  fun _ => .ok ()

def optional (check : Check) : Check
  | .null => .ok ()
  | v => check v

def text : Check
  | .text _ => .ok ()
  | v => .error (.wrongKind v "a string")

def boolean : Check
  | .bool _ => .ok ()
  | v => .error (.wrongKind v "a boolean")

def natural32 : Check
  | .number (.integer n) =>
    if 0 ≤ n ∧ n < 0x100000000 then .ok ()
    else .error (.wrongValue (.number (.integer n)) "u32")
  | v => .error (.wrongKind v "u32")

def integer32 : Check
  | .number (.integer n) =>
    if -0x80000000 ≤ n ∧ n < 0x80000000 then .ok ()
    else .error (.wrongValue (.number (.integer n)) "i32")
  | v => .error (.wrongKind v "i32")

def url : Check
  | .text s => (Url.check s).mapError (.badUrl · s)
  | v => .error (.wrongKind v "a string representing an URL")

def sequence (check : Check) : Check
  | .array items => items.forM check
  | v => .error (.wrongKind v "a sequence")

/-- One of some names: as a text, or as the only name of an object whose field
is null. -/
def oneOf (names : List String) : Check
  | .text s => known s
  | .object [(name, v)] => do
    known name
    match v with
    | .null => .ok ()
    | v => .error (.wrongKind v "unit")
  | .object _ => .error (.wrongValue (.object []) "map with a single key")
  | v => .error (.wrongKind v "string or map")
where
  known (name : String) : Except Mismatch Unit :=
    if names.contains name then .ok () else .error (.unknownVariant name names)

end Check

inductive Presence
  | required
  | optional
  /-- From an object, and from the end of an array. -/
  | preset
  deriving DecidableEq, Repr

structure Field where
  name : String
  presence : Presence
  check : Check

namespace Field

def required (name : String) (check : Check) : Field :=
  ⟨name, .required, check⟩

def optional (name : String) (check : Check) : Field :=
  ⟨name, .optional, check.optional⟩

def flag (name : String) : Field :=
  .optional name .boolean

def anything (name : String) : Field :=
  ⟨name, .optional, Check.anything⟩

end Field

structure Shape where
  name : String
  fields : List Field

namespace Shape

def expected (s : Shape) : String :=
  "struct " ++ s.name

/-- Checks the fields that are known, in the order of the object. -/
def checkPresent (s : Shape) (fields : Json.Fields) : Except Mismatch Unit :=
  fields.forM fun (name, v) =>
    match s.fields.find? (·.name = name) with
    | some f => f.check v
    | none => .ok ()

def checkComplete (s : Shape) (fields : Json.Fields) : Except Mismatch Unit :=
  s.fields.forM fun f =>
    if f.presence = .required && (Json.Fields.get? fields f.name).isNone then
      .error (.missingField f.name)
    else .ok ()

def expectedItems (s : Shape) : String :=
  s.expected ++ " with " ++ toString s.fields.length ++
    (if s.fields.length = 1 then " element" else " elements")

def checkItems (s : Shape) (position : Nat) : List Field → List Value → Except Mismatch Unit
  | [], [] => .ok ()
  | [], rest => .error (.wrongLength (position + rest.length) "fewer elements in array")
  | f :: fs, [] =>
    if f.presence = .preset then checkItems s (position + 1) fs []
    else .error (.wrongLength position s.expectedItems)
  | f :: fs, v :: vs => do
    f.check v
    checkItems s (position + 1) fs vs

/-- Checks a record that is an object, or an array of the fields. -/
def check (s : Shape) : Check
  | .object fields => do
    s.checkPresent fields
    s.checkComplete fields
  | .array items => s.checkItems 0 s.fields items
  | v => .error (.wrongKind v s.expected)

end Shape

end LspAdapter.Handshake
