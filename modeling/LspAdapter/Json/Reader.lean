import LspAdapter.Json.Reader.Number
import LspAdapter.Json.Reader.Text
/-!
# Reading JSON

A strict reader: one value, no comments, no trailing comma, strings without raw
control characters, at most 127 arrays and objects inside one another.
-/

namespace LspAdapter.Json

def isGap (c : Char) : Bool :=
  c = ' ' || c = '\n' || c = '\t' || c = '\r'

def skipGap (cs : List Char) : List Char :=
  cs.dropWhile isGap

/-- Reads the rest of a word whose first letter was seen. -/
def readWord {α : Type} (v : α) : List Char → List Char → Except Fault (α × List Char)
  | [], cs => .ok (v, cs)
  | _ :: _, [] => faultAt .endInValue []
  | w :: ws, c :: cs => if c = w then readWord v ws cs else faultNext .expectedWord (c :: cs)

mutual

/-- Reads a value. `depth` is the number of arrays and objects that may still
be opened, plus one; `fuel` exceeds the number of characters. -/
def readValue (fuel depth : Nat) (cs : List Char) : Except Fault (Value × List Char) :=
  match fuel with
  | 0 => faultAt .endInValue []
  | fuel + 1 =>
    match skipGap cs with
    | [] => faultAt .endInValue []
    | 'n' :: rest => readWord .null ['u', 'l', 'l'] rest
    | 't' :: rest => readWord (.bool true) ['r', 'u', 'e'] rest
    | 'f' :: rest => readWord (.bool false) ['a', 'l', 's', 'e'] rest
    | '"' :: rest => do
      let (s, rest) ← readString rest
      return (.text s, rest)
    | '[' :: rest =>
      if depth ≤ 1 then faultNext .tooDeep ('[' :: rest)
      else do
        let (items, rest) ← readItems fuel (depth - 1) rest
        return (.array items, rest)
    | '{' :: rest =>
      if depth ≤ 1 then faultNext .tooDeep ('{' :: rest)
      else do
        let (fields, rest) ← readFields fuel (depth - 1) rest
        return (.object fields, rest)
    | c :: rest =>
      if c.isDigit || c = '-' then do
        let (n, rest) ← readNumber (c :: rest)
        return (.number n, rest)
      else faultNext .expectedValue (c :: rest)
termination_by structural fuel

def readItems (fuel depth : Nat) (cs : List Char) : Except Fault (List Value × List Char) :=
  match fuel with
  | 0 => faultAt .endInList []
  | fuel + 1 =>
    match skipGap cs with
    | [] => faultAt .endInList []
    | ']' :: rest => .ok ([], rest)
    | rest => do
      let (v, rest) ← readValue fuel depth rest
      let (vs, rest) ← readMoreItems fuel depth rest
      return (v :: vs, rest)
termination_by structural fuel

def readMoreItems (fuel depth : Nat) (cs : List Char) : Except Fault (List Value × List Char) :=
  match fuel with
  | 0 => faultAt .endInList []
  | fuel + 1 =>
    match skipGap cs with
    | [] => faultAt .endInList []
    | ']' :: rest => .ok ([], rest)
    | ',' :: rest =>
      match skipGap rest with
      | [] => faultAt .endInValue []
      | ']' :: rest => faultNext .trailingComma (']' :: rest)
      | rest => do
        let (v, rest) ← readValue fuel depth rest
        let (vs, rest) ← readMoreItems fuel depth rest
        return (v :: vs, rest)
    | rest => faultNext .expectedCommaOrBracket rest
termination_by structural fuel

def readFields (fuel depth : Nat) (cs : List Char) : Except Fault (Fields × List Char) :=
  match fuel with
  | 0 => faultAt .endInObject []
  | fuel + 1 =>
    match skipGap cs with
    | [] => faultAt .endInObject []
    | '}' :: rest => .ok ([], rest)
    | '"' :: rest => do
      let (name, rest) ← readString rest
      let (v, rest) ← readFieldValue fuel depth rest
      let (fields, rest) ← readMoreFields fuel depth rest
      return ((name, v) :: fields, rest)
    | rest => faultNext .keyNotString rest
termination_by structural fuel

def readMoreFields (fuel depth : Nat) (cs : List Char) : Except Fault (Fields × List Char) :=
  match fuel with
  | 0 => faultAt .endInObject []
  | fuel + 1 =>
    match skipGap cs with
    | [] => faultAt .endInObject []
    | '}' :: rest => .ok ([], rest)
    | ',' :: rest =>
      match skipGap rest with
      | [] => faultAt .endInValue []
      | '}' :: rest => faultNext .trailingComma ('}' :: rest)
      | '"' :: rest => do
        let (name, rest) ← readString rest
        let (v, rest) ← readFieldValue fuel depth rest
        let (fields, rest) ← readMoreFields fuel depth rest
        return ((name, v) :: fields, rest)
      | rest => faultNext .keyNotString rest
    | rest => faultNext .expectedCommaOrBrace rest
termination_by structural fuel

def readFieldValue (fuel depth : Nat) (cs : List Char) : Except Fault (Value × List Char) :=
  match fuel with
  | 0 => faultAt .endInObject []
  | fuel + 1 =>
    match skipGap cs with
    | [] => faultAt .endInObject []
    | ':' :: rest => readValue fuel depth rest
    | rest => faultNext .expectedColon rest
termination_by structural fuel

end

/-- Arrays and objects may be nested less deep than this. -/
def depthLimit : Nat :=
  128

/-- Reads a value at the front of a text, and gives what follows it. -/
def readFront (text : String) : Except Error (Value × List Char) :=
  (readValue (text.toList.length * 4 + 4) depthLimit text.toList).mapError (·.locate text.toList)

def checkEnd (text : String) (rest : List Char) : Except Error Unit :=
  match skipGap rest with
  | [] => .ok ()
  | rest => .error (Fault.locate ⟨.trailingCharacters, rest, 1⟩ text.toList)

def read (text : String) : Except Error Value := do
  let (v, rest) ← readFront text
  checkEnd text rest
  return v

end LspAdapter.Json
