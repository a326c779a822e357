import LspAdapter.Domain
import LspAdapter.Text.Utf8
/-!
# Absolute URLs

Whether a text is an absolute URL.  Paths, queries and fragments may hold
anything; what can go wrong is a missing scheme, the host and the number behind
the host.
-/

namespace LspAdapter.Handshake.Url

inductive Fault
  | noBase
  | emptyHost
  | badDomain
  | badHostCharacter
  | badIpv4
  | badIpv6
  | badPortNumber
  deriving DecidableEq, Repr

def Fault.message : Fault → String
  | .noBase => "relative URL without a base"
  | .emptyHost => "empty host"
  | .badDomain => "invalid international domain name"
  | .badHostCharacter => "invalid domain character"
  | .badIpv4 => "invalid IPv4 address"
  | .badIpv6 => "invalid IPv6 address"
  | .badPortNumber => "invalid port number"

/-- The kinds of schemes, which differ in how their hosts are read. -/
inductive Scheme
  | file
  | special
  | other
  deriving DecidableEq, Repr

def Scheme.ofName (name : String) : Scheme :=
  if name = "file" then .file
  else if ["http", "https", "ws", "wss", "ftp"].contains name then .special
  else .other

/-- The text without blanks and controls around it, and without tabs and line
ends anywhere. -/
def clean (cs : List Char) : List Char :=
  let outer (c : Char) : Bool := c ≤ ' '
  let cs := ((cs.dropWhile outer).reverse.dropWhile outer).reverse
  cs.filter fun c => c ≠ '\t' && c ≠ '\n' && c ≠ '\r'

def splitScheme (cs : List Char) : Option (String × List Char) :=
  let inside (c : Char) : Bool := c.isAlphanum || c = '+' || c = '-' || c = '.'
  match cs with
  | [] => none
  | c :: _ =>
    if c.isAlpha then
      match cs.dropWhile inside with
      | ':' :: rest => some (String.ofList ((cs.takeWhile inside).map Char.toLower), rest)
      | _ => none
    else none

def endsAuthority (s : Scheme) (c : Char) : Bool :=
  c = '/' || c = '?' || c = '#' || (c = '\\' && s ≠ .other)

/-! ## Addresses -/

/-- The digits of a number in an address of the fourth version, and their
base. -/
def ipv4Digits (part : List Char) : List Char × Nat :=
  match part with
  | '0' :: 'x' :: ds | '0' :: 'X' :: ds => (ds, 16)
  | '0' :: d :: ds => (d :: ds, 8)
  | ds => (ds, 10)

def digit? (base : Nat) (c : Char) : Option Nat :=
  let v :=
    if c.isDigit then c.toNat - '0'.toNat
    else if 'a' ≤ c.toLower ∧ c.toLower ≤ 'f' then c.toLower.toNat - 'a'.toNat + 10
    else base
  if v < base then some v else none

def ipv4Number? (part : List Char) : Option Nat :=
  let (ds, base) := ipv4Digits part
  if part.isEmpty then none
  else ds.foldlM (fun n c => (digit? base c).map (base * n + ·)) 0

/-- The labels of a domain without the empty one behind a dot at the end. -/
def numericParts (labels : List (List Char)) : List (List Char) :=
  if labels.getLast? = some [] ∧ labels.length > 1 then labels.dropLast else labels

/-- Whether the last label of a domain is a number, which makes it an
address. -/
def endsInNumber (labels : List (List Char)) : Bool :=
  match (numericParts labels).getLast? with
  | none => false
  | some part =>
    (!part.isEmpty && part.all Char.isDigit) || (ipv4Number? part).isSome

/-- Whether a domain is an address of the fourth version: at most four numbers,
all but the last of them bytes, and the last within what is left. -/
def isIpv4 (labels : List (List Char)) : Bool :=
  match (numericParts labels).mapM ipv4Number? with
  | none => false
  | some numbers =>
    numbers.length ≤ 4 && numbers.dropLast.all (· ≤ 255) &&
      (numbers.getLastD 0) < Nat.pow 256 (5 - numbers.length)

def isIpv6Piece (cs : List Char) : Bool :=
  !cs.isEmpty && cs.length ≤ 4 && cs.all fun c => (digit? 16 c).isSome

/-- Whether a text is four decimal bytes with dots between them, without
leading zeros. -/
def isDottedQuad (cs : List Char) : Bool :=
  let parts := cs.splitOn '.'
  parts.length = 4 && parts.all fun p =>
    !p.isEmpty && p.all Char.isDigit && (p.length = 1 || p.head? ≠ some '0') &&
      p.length ≤ 3 && (p.foldl (fun n c => 10 * n + (c.toNat - '0'.toNat)) 0) ≤ 255

/-- The number of sixteen-bit pieces that a run of an address stands for; the
last part may be a dotted quad where that is allowed. -/
def ipv6Pieces? (run : List Char) (quadAllowed : Bool) : Option Nat :=
  if run.isEmpty then some 0
  else
    let parts := run.splitOn ':'
    match parts.getLast? with
    | none => some 0
    | some last =>
      if !(parts.dropLast.all isIpv6Piece) then none
      else if isIpv6Piece last then some parts.length
      else if quadAllowed && isDottedQuad last then some (parts.length + 1)
      else none

def splitDoubleColon : List Char → Option (List Char × List Char)
  | [] => none
  | ':' :: ':' :: cs => some ([], cs)
  | c :: cs => (splitDoubleColon cs).map fun (a, b) => (c :: a, b)

/-- Whether a text is an address of the sixth version: eight pieces, or fewer
with one double colon that stands for at least one. -/
def isIpv6 (cs : List Char) : Bool :=
  match splitDoubleColon cs with
  | none => ipv6Pieces? cs true = some 8
  | some (before, after) =>
    match ipv6Pieces? before false, ipv6Pieces? after true with
    | some m, some n => m + n ≤ 7
    | _, _ => false

/-! ## Hosts -/

def escapedByte? (a b : Char) : Option UInt8 := do
  return UInt8.ofNat (16 * (← digit? 16 a) + (← digit? 16 b))

def unescaped : List Char → List UInt8
  | [] => []
  | '%' :: a :: b :: cs =>
    match escapedByte? a b with
    | some byte => byte :: unescaped cs
    | none => 0x25 :: unescaped (a :: b :: cs)
  | c :: cs => String.utf8EncodeChar c ++ unescaped cs

def isForbidden (c : Char) : Bool :=
  c ≤ ' ' || c = '\x7f' || "%#/:<>?@[\\]^|".toList.contains c

/-- Whether a host that is no domain may not hold a character. -/
def isForbiddenOpaque (c : Char) : Bool :=
  c = '\x00' || "\t\n\r #/:<>?@[\\]^|".toList.contains c

def checkBracketed (host : List Char) : Except Fault Unit :=
  if host.getLast? = some ']' && isIpv6 (host.drop 1).dropLast then .ok ()
  else .error .badIpv6

def checkDomain (host : List Char) : Except Fault Unit :=
  if host.head? = some '[' then checkBracketed host
  else
    match (Text.Utf8.wellFormed? (Text.Utf8.chunks (unescaped host))).bind
        (Domain.labels? isForbidden) with
    | none => .error .badDomain
    | some labels =>
      if labels = [[]] then .error .emptyHost
      else if endsInNumber labels && !isIpv4 labels then .error .badIpv4
      else .ok ()

/-- Checks a host of a scheme that gives hosts no meaning. -/
def checkOpaque (host : List Char) : Except Fault Unit :=
  if host.head? = some '[' then checkBracketed host
  else if host.any isForbiddenOpaque then .error .badHostCharacter
  else .ok ()

/-- Splits a host off the front. A colon ends it, unless it stands between
brackets. -/
def splitHost (s : Scheme) (inBrackets : Bool) : List Char → List Char × List Char
  | [] => ([], [])
  | c :: cs =>
    if (c = ':' && !inBrackets) || endsAuthority s c then ([], c :: cs)
    else
      let (host, rest) := splitHost s ((inBrackets || c = '[') && c ≠ ']') cs
      (c :: host, rest)

/-- Checks what stands behind the colon after a host: digits of a number of
sixteen bits, up to the end of the authority. -/
def checkPortNumber (value : Nat) : List Char → Except Fault Unit
  | [] => .ok ()
  | c :: cs =>
    if c.isDigit then
      let value := 10 * value + (c.toNat - '0'.toNat)
      if value < 0x10000 then checkPortNumber value cs else .error .badPortNumber
    else if endsAuthority .special c then .ok ()
    else .error .badPortNumber

def splitUser (s : Scheme) (cs : List Char) : Option (List Char) × List Char :=
  let authority := cs.takeWhile fun c => !endsAuthority s c
  let rest := cs.drop authority.length
  let host := (authority.reverse.takeWhile (· ≠ '@')).reverse
  if host.length = authority.length then (none, cs)
  else (some (authority.take (authority.length - host.length - 1)), host ++ rest)

def checkAuthority (s : Scheme) (cs : List Char) : Except Fault Unit := do
  let (user, cs) := splitUser s cs
  if user = some [] && (cs.head?.any (endsAuthority s)) then .error .emptyHost
  else
    let (host, rest) := splitHost s false cs
    if s = .special then
      if host.isEmpty then .error .emptyHost else checkDomain host
    else checkOpaque host
    if host.isEmpty && (rest.head? = some ':' || user.any fun u => u ≠ [] && u ≠ [':']) then
      .error .emptyHost
    else
      match rest with
      | ':' :: number => checkPortNumber 0 number
      | _ => .ok ()

/-- Whether a text is a letter and a colon or a bar, as a drive is named. -/
def isDrive : List Char → Bool
  | [a, b] => a.isAlpha && (b = ':' || b = '|')
  | _ => false

/-- Checks the host that a `file` URL may have behind two slashes. -/
def checkFile (cs : List Char) : Except Fault Unit :=
  match cs with
  | a :: b :: rest =>
    if (a = '/' || a = '\\') && (b = '/' || b = '\\') then
      let host := rest.takeWhile fun c => !endsAuthority .file c
      if host.isEmpty || isDrive host then .ok () else checkDomain host
    else .ok ()
  | _ => .ok ()

def check (text : String) : Except Fault Unit :=
  match splitScheme (clean text.toList) with
  | none => .error .noBase
  | some (name, rest) =>
    match Scheme.ofName name with
    | .file => checkFile rest
    | .special => checkAuthority .special (rest.dropWhile fun c => c = '/' || c = '\\')
    | .other =>
      match rest with
      | '/' :: '/' :: rest => checkAuthority .other rest
      | _ => .ok ()

end LspAdapter.Handshake.Url
