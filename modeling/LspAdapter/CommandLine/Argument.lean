import LspAdapter.Text.Utf8
/-!
# Command line arguments as bytes

An argument is any sequence of bytes.  Its spelling decides whether it is the
marker that ends the flags, a long flag, a group of short flags or a plain word.
-/

namespace LspAdapter.CommandLine

structure Argument where
  bytes : List UInt8
  deriving DecidableEq, Repr

def hyphen : UInt8 := 0x2D

def equalsSign : UInt8 := 0x3D

def slash : UInt8 := 0x2F

inductive Spelling
  | terminator
  /-- Two hyphens, a name, and perhaps an equals sign and a value. -/
  | long (name : List UInt8) (value : Option Argument)
  | short (letters : List UInt8)
  /-- Anything else, also the empty argument and a lone hyphen. -/
  | word
  deriving DecidableEq, Repr

namespace Argument

def ofText (s : String) : Argument :=
  ⟨Text.Utf8.encode s⟩

def text? (a : Argument) : Option String :=
  Text.Utf8.decode? a.bytes

def shown (a : Argument) : String :=
  Text.Utf8.lossy a.bytes

/-- Splits the text of a long flag at its first equals sign. -/
def splitValue (bytes : List UInt8) : List UInt8 × Option Argument :=
  match bytes.dropWhile (· ≠ equalsSign) with
  | [] => (bytes, none)
  | _ :: value => (bytes.takeWhile (· ≠ equalsSign), some ⟨value⟩)

def spelling (a : Argument) : Spelling :=
  match a.bytes with
  | [] => .word
  | b :: rest =>
    if b ≠ hyphen then .word
    else
      match rest with
      | [] => .word
      | c :: name =>
        if c ≠ hyphen then .short (c :: name)
        else if name.isEmpty then .terminator
        else .long (splitValue name).1 (splitValue name).2

end Argument

/-- The last component of a path that names a file: neither empty, nor the
current directory, nor the parent directory. -/
def fileName? (path : List UInt8) : Option (List UInt8) :=
  let components := (path.splitOn slash).filter fun c => c ≠ [] && c ≠ [0x2E]
  components.getLast?.filter (· ≠ [0x2E, 0x2E])

end LspAdapter.CommandLine
