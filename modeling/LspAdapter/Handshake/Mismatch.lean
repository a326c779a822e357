import LspAdapter.Diagnostic
import LspAdapter.Handshake.Url
import LspAdapter.Json.Outline
/-!
# Mismatches

Why a JSON value is not of the type that was asked for.
-/

namespace LspAdapter.Handshake

open Json (Value)

inductive Mismatch
  | wrongKind (found : Value) (expected : String)
  /-- The value is of the right kind but out of range. -/
  | wrongValue (found : Value) (expected : String)
  | wrongLength (length : Nat) (expected : String)
  | missingField (name : String)
  /-- A name is none of those that are known. -/
  | unknownVariant (name : String) (known : List String)
  | badUrl (fault : Url.Fault) (text : String)
  /-- A value is of none of the types that are tried. -/
  | noVariant (type : String)
  deriving Repr

def found : Value → String
  | .null => "null"
  | .bool b => "boolean `" ++ toString b ++ "`"
  | .number (.integer n) => "integer `" ++ toString n ++ "`"
  | .number (.binary x) => "floating point `" ++ Json.numberLayout.text x ++ "`"
  | .text s => "string " ++ Diagnostic.quoted s
  | .array _ => "sequence"
  | .object _ => "map"

def backquoted (name : String) : String :=
  "`" ++ name ++ "`"

/-- A choice of names, of which a pair takes an `or` and more take commas. -/
def listed : List String → String
  | [a, b] => backquoted a ++ " or " ++ backquoted b
  | names => "one of " ++ ", ".intercalate (names.map backquoted)

def Mismatch.message : Mismatch → String
  | .wrongKind v expected => "invalid type: " ++ found v ++ ", expected " ++ expected
  | .wrongValue v expected => "invalid value: " ++ found v ++ ", expected " ++ expected
  | .wrongLength n expected => "invalid length " ++ toString n ++ ", expected " ++ expected
  | .missingField name => "missing field " ++ backquoted name
  | .unknownVariant name known =>
    "unknown variant " ++ backquoted name ++ ", expected " ++ listed known
  | .badUrl fault text => fault.message ++ ": " ++ Diagnostic.quoted text
  | .noVariant type => "data did not match any variant of untagged enum " ++ type

end LspAdapter.Handshake
