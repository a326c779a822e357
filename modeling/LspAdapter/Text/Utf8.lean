/-!
# UTF-8

Bytes are cut into chunks, each a character or a longest faulty piece.  A text
is well formed if every chunk is a character; otherwise the first faulty chunk
locates the error, and a lossy reading shows U+FFFD in place of each.
-/

namespace LspAdapter.Text.Utf8

def encode (s : String) : List UInt8 :=
  s.toList.flatMap String.utf8EncodeChar

def byteCount (cs : List Char) : Nat :=
  cs.foldr (fun c n => c.utf8Size + n) 0

/-- A sequence that has begun: its bytes so far, the value of their payload,
how many bytes it still needs, and where the next of them must lie. -/
structure Open where
  taken : Nat
  value : Nat
  missing : Nat
  low : Nat
  high : Nat
  deriving DecidableEq, Repr

inductive Chunk
  | char (c : Char)
  /-- A faulty piece of some bytes that another byte follows. -/
  | faulty (size : Nat)
  /-- A sequence that the end of the bytes cuts off. -/
  | cutOff (size : Nat)
  deriving DecidableEq, Repr

/-- What a first byte begins.  The second byte has a narrower range after
E0, ED, F0 and F4, which shuts out overlong forms, surrogates and values
beyond the last code point. -/
def first (b : UInt8) : Chunk ⊕ Open :=
  let n := b.toNat
  if n < 0x80 then .inl (.char (Char.ofNat n))
  else if n < 0xC2 then .inl (.faulty 1)
  else if n < 0xE0 then .inr ⟨1, n - 0xC0, 1, 0x80, 0xBF⟩
  else if n = 0xE0 then .inr ⟨1, 0, 2, 0xA0, 0xBF⟩
  else if n = 0xED then .inr ⟨1, 0xD, 2, 0x80, 0x9F⟩
  else if n < 0xF0 then .inr ⟨1, n - 0xE0, 2, 0x80, 0xBF⟩
  else if n = 0xF0 then .inr ⟨1, 0, 3, 0x90, 0xBF⟩
  else if n < 0xF4 then .inr ⟨1, n - 0xF0, 3, 0x80, 0xBF⟩
  else if n = 0xF4 then .inr ⟨1, 4, 3, 0x80, 0x8F⟩
  else .inl (.faulty 1)

/-- Takes one byte: the chunks that it completes and the sequence that it
leaves open. -/
def advance (o : Option Open) (b : UInt8) : List Chunk × Option Open :=
  match o with
  | none => begun [] b
  | some o =>
    if o.low ≤ b.toNat ∧ b.toNat ≤ o.high then
      let value := 64 * o.value + (b.toNat - 0x80)
      if o.missing ≤ 1 then ([.char (Char.ofNat value)], none)
      else ([], some ⟨o.taken + 1, value, o.missing - 1, 0x80, 0xBF⟩)
    else begun [.faulty o.taken] b
where
  /-- Starts afresh with a byte, after the given chunks. -/
  begun (before : List Chunk) (b : UInt8) : List Chunk × Option Open :=
    match first b with
    | .inl chunk => (before ++ [chunk], none)
    | .inr o => (before, some o)

def chunksFrom (o : Option Open) : List UInt8 → List Chunk
  | [] => match o with
    | none => []
    | some o => [.cutOff o.taken]
  | b :: bs =>
    let (chunks, o) := advance o b
    chunks ++ chunksFrom o bs

def chunks (bs : List UInt8) : List Chunk :=
  chunksFrom none bs

def wellFormed? : List Chunk → Option (List Char)
  | [] => some []
  | .char c :: cs => (wellFormed? cs).map (c :: ·)
  | _ :: _ => none

def decode? (bs : List UInt8) : Option String :=
  (wellFormed? (chunks bs)).map String.ofList

/-- The text with U+FFFD in place of each faulty piece. -/
def lossy (bs : List UInt8) : String :=
  String.ofList ((chunks bs).map fun
    | .char c => c
    | .faulty _ | .cutOff _ => '\uFFFD')

/-- Where the first fault lies: the count of good bytes before it and, unless
the end cuts a sequence off, the size of the faulty piece. -/
structure Fault where
  validUpTo : Nat
  size : Option Nat
  deriving DecidableEq, Repr

def faultFrom (offset : Nat) : List Chunk → Option Fault
  | [] => none
  | .char c :: cs => faultFrom (offset + c.utf8Size) cs
  | .faulty n :: _ => some ⟨offset, some n⟩
  | .cutOff _ :: _ => some ⟨offset, none⟩

def fault? (bs : List UInt8) : Option Fault :=
  faultFrom 0 (chunks bs)

end LspAdapter.Text.Utf8
