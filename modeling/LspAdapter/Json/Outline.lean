import LspAdapter.Diagnostic
import LspAdapter.Json.Printer
/-!
# Outlines of JSON values

The form in which a diagnostic shows a value: the kind of each part by name,
texts quoted, and fields between braces.
-/

namespace LspAdapter.Json

open Diagnostic (quoted tagged)

namespace Value

mutual

def outline : Value → String
  | .null => "Null"
  | .bool b => tagged "Bool" (toString b)
  | .number n => tagged "Number" (String.ofList n.write)
  | .text s => tagged "String" (quoted s)
  | .array items => "Array [" ++ outlineItems items ++ "]"
  | .object fields => "Object \x7b" ++ outlineFields fields ++ "\x7d"

def outlineItems : List Value → String
  | [] => ""
  | v :: vs => v.outline ++ outlineMoreItems vs

def outlineMoreItems : List Value → String
  | [] => ""
  | v :: vs => ", " ++ v.outline ++ outlineMoreItems vs

def outlineFields : List (String × Value) → String
  | [] => ""
  | (name, v) :: rest =>
    quoted name ++ ": " ++ v.outline ++ outlineMoreFields rest

def outlineMoreFields : List (String × Value) → String
  | [] => ""
  | (name, v) :: rest =>
    ", " ++ quoted name ++ ": " ++ v.outline ++ outlineMoreFields rest

end

end Value

end LspAdapter.Json
