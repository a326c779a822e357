/-!
# Letters of all scripts in letters of one

A label with letters of any script can be written with small Latin letters,
digits and hyphens: first its characters of that kind, then a hyphen, then where
to insert the others, in the order of their code points.  Each insertion is the
distance from the last one, counted first through the places of the text and
then through the code points, as a number of variable length.
-/

namespace LspAdapter.Domain.Punycode

def limit : Nat :=
  0xFFFFFFFF

def digit? (c : Char) : Option Nat :=
  if c.isDigit then some (c.toNat - '0'.toNat + 26)
  else if 'a' ≤ c ∧ c ≤ 'z' then some (c.toNat - 'a'.toNat)
  else none

/-- The least value with which a digit is not the last of its number. -/
def threshold (place bias : Nat) : Nat :=
  max 1 (min 26 (place - bias))

def scaled (distance : Nat) : Nat × Nat :=
  if 455 < distance then
    let (rest, divisions) := scaled (distance / 35)
    (rest, divisions + 1)
  else (distance, 0)
termination_by distance
decreasing_by omega

def nextBias (distance length : Nat) (isFirst : Bool) : Nat :=
  let halved := if isFirst then distance / 700 else distance / 2
  let (rest, divisions) := scaled (halved + halved / length)
  36 * divisions + 36 * rest / (rest + 38)

/-- Reads a number and adds it to another one, where the next digit has a place
and a weight. -/
def readNumber (bias place weight sum : Nat) : List Char → Option (Nat × List Char)
  | [] => none
  | c :: cs => do
    let digit ← digit? c
    let sum := sum + digit * weight
    let least := threshold place bias
    if limit < sum then none
    else if digit < least then some (sum, cs)
    else
      let weight := weight * (36 - least)
      if limit < weight then none else readNumber bias (place + 36) weight sum cs

theorem length_lt_of_readNumber {bias place weight sum n : Nat} {cs rest : List Char}
    (h : readNumber bias place weight sum cs = some (n, rest)) : rest.length < cs.length := by
  induction cs generalizing place weight sum with
  | nil => simp [readNumber] at h
  | cons c cs ih =>
    simp only [readNumber, Option.bind_eq_bind, Option.bind_eq_some_iff] at h
    obtain ⟨digit, -, h⟩ := h
    split at h
    · cases h
    · split at h
      · cases h
        simp
      · split at h
        · cases h
        · exact Nat.lt_succ_of_lt (ih h)

def char? (n : Nat) : Option Char :=
  if n.isValidChar then some (Char.ofNat n) else none

/-- Makes the insertions that a text lists: the code point of the next one is at
least so great, and its place at least so far. -/
def insertAll (text : List Char) (codePoint place bias : Nat) (cs : List Char) :
    Option (List Char) :=
  match cs with
  | [] => some text
  | c :: cs =>
    match _h : readNumber bias 36 1 place (c :: cs) with
    | none => none
    | some (sum, rest) =>
      let length := text.length + 1
      let codePoint := codePoint + sum / length
      match char? codePoint with
      | none => none
      | some inserted =>
        insertAll (text.insertIdx (sum % length) inserted) codePoint (sum % length + 1)
          (nextBias (sum - place) length (place = 0)) rest
termination_by cs.length
decreasing_by exact length_lt_of_readNumber _h

/-- The text in front of the last hyphen, and the insertions behind it. A hyphen
in front of all else is no separator. -/
def splitLast (cs : List Char) : List Char × List Char :=
  let insertions := (cs.reverse.takeWhile (· ≠ '-')).reverse
  let before := cs.take (cs.length - insertions.length)
  if before.length ≤ 1 then ([], cs) else (before.dropLast, insertions)

def decode? (cs : List Char) : Option (List Char) :=
  let (text, insertions) := splitLast cs
  insertAll text 0x80 0 72 insertions

end LspAdapter.Domain.Punycode
