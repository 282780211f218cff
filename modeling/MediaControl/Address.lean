import MediaControl.Number.Natural

/-!
# Socket addresses

The address of a host, of version four or six, with a port.  An address of version six is written
with its longest row of zero groups left out, and stands between brackets.
-/

set_option autoImplicit false

namespace MediaControl

/-- The address of a host. -/
inductive HostAddress where
  /-- four bytes -/
  | v4 (bytes : List Nat)
  /-- eight groups of sixteen bits, and the zone in which they mean something -/
  | v6 (groups : List Nat) (zone : Nat)
  deriving DecidableEq, Repr, Inhabited

/-- A host reaches itself under the address, and nobody else does; or the address stands for all that
the host has. -/
def HostAddress.isOwn : HostAddress → Bool
  | v4 bytes => bytes.head? = some 127 || bytes.all (· = 0)
  | v6 groups _ => groups.dropLast.all (· = 0) && groups.getLast?.any (· ≤ 1)

/-- The address of a host with a port. -/
structure SocketAddress where
  host : HostAddress
  port : Nat
  deriving DecidableEq, Repr, Inhabited

namespace SocketAddress

/-! ## Reading -/

/-- The value of a digit in base sixteen. -/
def hexValue? (c : Char) : Option Nat :=
  if c.isDigit then some (c.toNat - '0'.toNat)
  else if 'a' ≤ c && c ≤ 'f' then some (c.toNat - 'a'.toNat + 10)
  else if 'A' ≤ c && c ≤ 'F' then some (c.toNat - 'A'.toNat + 10)
  else none

/-- Reads a row of decimal digits up to a bound; zeros may stand in front. -/
def readDecimal (bound : Nat) (s : List Char) : Option (Nat × List Char) :=
  match Natural.readFrom bound 0 (s.takeWhile Char.isDigit) with
  | .ok n => if (s.takeWhile Char.isDigit).isEmpty then none else some (n, s.dropWhile Char.isDigit)
  | .error _ => none

/-- Reads one byte: at most three digits, and no zero in front of others. -/
def readByte (s : List Char) : Option (Nat × List Char) :=
  let digits := s.takeWhile Char.isDigit
  if 3 < digits.length || (1 < digits.length && digits.head? = some '0') then none
  else readDecimal 255 s

/-- Reads one group: one to four digits in base sixteen. -/
def readGroup (s : List Char) : Option (Nat × List Char) :=
  let digits := (s.takeWhile fun c => (hexValue? c).isSome).filterMap hexValue?
  if digits.isEmpty || 4 < digits.length then none
  else some (digits.foldl (fun n d => n * 16 + d) 0, s.drop digits.length)

/-- Reads the character. -/
def readChar (c : Char) : List Char → Option (List Char)
  | [] => none
  | d :: rest => if d = c then some rest else none

/-- Reads four bytes with points between them. -/
def readFour (s : List Char) : Option (List Nat × List Char) := do
  let (a, s) ← readByte s
  let (b, s) ← readByte (← readChar '.' s)
  let (c, s) ← readByte (← readChar '.' s)
  let (d, s) ← readByte (← readChar '.' s)
  return ([a, b, c, d], s)

/-- Reads a colon, unless nothing was read before. -/
def readSeparator (isFirst : Bool) (s : List Char) : Option (List Char) :=
  if isFirst then some s else readChar ':' s

/-- Reads up to so many groups with colons between them, behind groups already read; an address of
version four may stand in the place of the last two.  Says whether one did. -/
def readGroups (groups : List Nat) : Nat → List Char → List Nat × Bool × List Char
  | 0, s => (groups, false, s)
  | room + 1, s =>
    let behind := readSeparator groups.isEmpty s
    match if 0 < room then behind.bind readFour else none with
    | some ([a, b, c, d], rest) => (groups ++ [a * 256 + b, c * 256 + d], true, rest)
    | _ =>
      match behind.bind readGroup with
      | some (group, rest) => readGroups (groups ++ [group]) room rest
      | none => (groups, false, s)

/-- Reads eight groups, of which a row of zeros may be left out. -/
def readEight (s : List Char) : Option (List Nat × List Char) :=
  let (head, hasFour, s) := readGroups [] 8 s
  if head.length = 8 then some (head, s)
  else if hasFour then none
  else do
    let s ← readChar ':' (← readChar ':' s)
    let (tail, _, s) := readGroups [] (7 - head.length) s
    return (head ++ List.replicate (8 - head.length - tail.length) 0 ++ tail, s)

/-- Reads a zone, if there is one. -/
def readZone (s : List Char) : Option (Nat × List Char) :=
  match s with
  | '%' :: rest => readDecimal 4294967295 rest
  | _ => some (0, s)

/-- Reads a colon and a port. -/
def readPort (s : List Char) : Option (Nat × List Char) := do
  readDecimal Natural.max16 (← readChar ':' s)

/-- Reads an address with its port. -/
def read? (text : String) : Option SocketAddress := do
  let s := text.toList
  let (host, s) ← match s with
    | '[' :: s => do
      let (groups, s) ← readEight s
      let (zone, s) ← readZone s
      pure (HostAddress.v6 groups zone, ← readChar ']' s)
    | s => do
      let (bytes, s) ← readFour s
      pure (HostAddress.v4 bytes, s)
  let (port, s) ← readPort s
  if s.isEmpty then some { host, port } else none

/-! ## Writing -/

/-- Four bytes in writing. -/
def fourText (bytes : List Nat) : String := ".".intercalate (bytes.map Natural.text)

/-- Groups in writing. -/
def groupsText (groups : List Nat) : String :=
  ":".intercalate (groups.map fun g => String.ofList (Nat.toDigits 16 g))

/-- The length of the row of zeros at the front. -/
def zeros (groups : List Nat) : Nat := (groups.takeWhile (· = 0)).length

/-- The place and the length of the first of the longest rows of zeros. -/
def longestZeros (groups : List Nat) : Nat × Nat :=
  (List.range groups.length).foldl
    (fun best i => if best.2 < zeros (groups.drop i) then (i, zeros (groups.drop i)) else best)
    (0, 0)

/-- Eight groups in writing.  Those that hold an address of version four show it. -/
def eightText (groups : List Nat) : String :=
  match groups with
  | [0, 0, 0, 0, 0, 0xFFFF, high, low] =>
    "::ffff:" ++ fourText [high / 256, high % 256, low / 256, low % 256]
  | _ =>
    let (start, length) := longestZeros groups
    if 1 < length then
      groupsText (groups.take start) ++ "::" ++ groupsText (groups.drop (start + length))
    else groupsText groups

/-- The address in writing. -/
def text (a : SocketAddress) : String :=
  match a.host with
  | .v4 bytes => s!"{fourText bytes}:{a.port}"
  | .v6 groups zone =>
    let inside := if zone = 0 then eightText groups else s!"{eightText groups}%{zone}"
    s!"[{inside}]:{a.port}"

end SocketAddress

end MediaControl
