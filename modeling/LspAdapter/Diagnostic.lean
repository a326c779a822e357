import LspAdapter.Text.Escaping
/-!
# The form of diagnostics

Values appear in diagnostics in one form: texts in quotes, records with their
kind and the names of their parts, optional values with the word `Some` around
them.
-/

namespace LspAdapter.Diagnostic

def quoted (s : String) : String :=
  Text.Escaping.quotation.quoted s

def list (values : List String) : String :=
  "[" ++ ", ".intercalate values ++ "]"

def option {α : Type} (form : α → String) : Option α → String
  | none => "None"
  | some a => "Some(" ++ form a ++ ")"

def tagged (kind part : String) : String :=
  kind ++ "(" ++ part ++ ")"

def record (kind : String) (parts : List (String × String)) : String :=
  kind ++ " \x7b " ++ ", ".intercalate (parts.map fun p => p.1 ++ ": " ++ p.2) ++ " \x7d"

def located (wording : String) (line column : Nat) : String :=
  tagged "Error"
    (quoted wording ++ ", line: " ++ toString line ++ ", column: " ++ toString column)

def custom (kind content : String) : String :=
  record "Custom" [("kind", kind), ("error", content)]

def simple (kind wording : String) : String :=
  record "Error" [("kind", kind), ("message", quoted wording)]

end LspAdapter.Diagnostic
