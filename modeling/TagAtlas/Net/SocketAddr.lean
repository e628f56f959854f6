/-! Socket addresses: an IPv4 address and a port (`127.0.0.1:8080`), or a bracketed IPv6
address with an optional numeric scope and a port (`[::1%2]:80`).

Reading is strict. An IPv4 address has four decimal parts of at most three digits, each at
most 255 and without a leading zero. An IPv6 address has up to eight hexadecimal groups of at
most four digits, one `::` standing for a run of zero groups, and may end in an embedded IPv4
address. A port is a decimal number below 65536, leading zeros allowed. Nothing may follow.

The text of an IPv6 address is lowercase hexadecimal with the longest run of two or more zero
groups (the first of equals) written `::`; an IPv4-mapped address is written `::ffff:a.b.c.d`. -/
namespace TagAtlas

/-- An IP address: four octets or eight 16-bit groups. -/
inductive IpAddr
  | v4 (octets : List Nat)
  | v6 (groups : List Nat)
  deriving DecidableEq, Repr, Inhabited

/-- A socket address; the scope is that of an IPv6 address and zero otherwise. -/
structure SocketAddr where
  ip : IpAddr
  port : Nat
  scope : Nat := 0
  deriving DecidableEq, Repr, Inhabited

/-- A reader over the characters of a text; a failed branch gives its input back. -/
abbrev Scan := StateT (List Char) Option

namespace Scan

/-- Read one given character. -/
def expect (c : Char) : Scan Unit := do
  match ← get with
  | d :: rest => if d == c then set rest else failure
  | [] => failure

/-- The value of a digit in a radix up to sixteen. -/
def digitValue (radix : Nat) (c : Char) : Option Nat :=
  let v := if c.isDigit then some (c.toNat - '0'.toNat)
    else if 'a' ≤ c && c ≤ 'f' then some (c.toNat - 'a'.toNat + 10)
    else if 'A' ≤ c && c ≤ 'F' then some (c.toNat - 'A'.toNat + 10)
    else none
  v.filter (· < radix)

/-- Read a number: the longest run of digits, at least one, at most `maxDigits` of them if
given, of value at most `bound`, and without a leading zero unless `zeroPrefix`. -/
def number (radix : Nat) (maxDigits : Option Nat) (zeroPrefix : Bool) (bound : Nat) : Scan Nat := do
  let cs ← get
  let run := cs.takeWhile fun c => (digitValue radix c).isSome
  let value := run.foldl (fun n c => radix * n + (digitValue radix c).getD 0) 0
  if run.isEmpty then failure
  if maxDigits.any (· < run.length) then failure
  if value > bound then failure
  if !zeroPrefix && run.head? == some '0' && run.length > 1 then failure
  set (cs.drop run.length)
  pure value

/-- Read an IPv4 address. -/
def ipv4 : Scan (List Nat) := do
  let a ← number 10 (some 3) false 255
  expect '.'
  let b ← number 10 (some 3) false 255
  expect '.'
  let c ← number 10 (some 3) false 255
  expect '.'
  let d ← number 10 (some 3) false 255
  pure [a, b, c, d]

/-- Read a part after a colon, except for the first part. -/
def separated {α : Type} (first : Bool) (p : Scan α) : Scan α :=
  if first then p else expect ':' *> p

/-- Read colon separated groups, at most `remaining` of them, the first at position `first`.
An embedded IPv4 address may take the place of two groups and ends the run. -/
def groups : Nat → Bool → Scan (List Nat × Bool)
  | 0, _ => pure ([], false)
  | remaining + 1, first => do
    let v4 ← if remaining ≥ 1 then optional (separated first ipv4) else pure none
    match v4 with
    | some [a, b, c, d] => pure ([256 * a + b, 256 * c + d], true)
    | _ =>
      match ← optional (separated first (number 16 (some 4) true 0xffff)) with
      | some g =>
        let (rest, embedded) ← groups remaining false
        pure (g :: rest, embedded)
      | none => pure ([], false)

/-- Read an IPv6 address. -/
def ipv6 : Scan (List Nat) := do
  let (head, embedded) ← groups 8 true
  if head.length = 8 then pure head
  else if embedded then failure
  else
    expect ':'
    expect ':'
    let (tail, _) ← groups (7 - head.length) true
    pure (head ++ List.replicate (8 - head.length - tail.length) 0 ++ tail)

/-- Read a port after a colon. -/
def port : Scan Nat := expect ':' *> number 10 none true 0xffff

/-- Read an IPv4 socket address. -/
def socketV4 : Scan SocketAddr := do
  let ip ← ipv4
  let p ← port
  pure { ip := .v4 ip, port := p }

/-- Read an IPv6 socket address. -/
def socketV6 : Scan SocketAddr := do
  expect '['
  let ip ← ipv6
  let scope ← (expect '%' *> number 10 none true 0xffffffff) <|> pure 0
  expect ']'
  let p ← port
  pure { ip := .v6 ip, port := p, scope }

end Scan

/-- Lowercase hexadecimal digits of a number. -/
def hexText (n : Nat) : String :=
  String.ofList (Nat.toDigits 16 n)

/-- The dotted text of four octets. -/
def dottedText (octets : List Nat) : String :=
  ".".intercalate (octets.map toString)

/-- The longest run of zero groups, the first of equals: its start and length. -/
def longestZeroRun (groups : List Nat) : Nat × Nat :=
  let (best, _) := groups.zipIdx.foldl (fun ((bs, bl), (cs, cl)) (g, i) =>
    if g = 0 then
      let cur := if cl = 0 then (i, 1) else (cs, cl + 1)
      (if cur.2 > bl then cur else (bs, bl), cur)
    else ((bs, bl), (0, 0))) ((0, 0), (0, 0))
  best

/-- The text of an IPv6 address. -/
def ipv6Text (groups : List Nat) : String :=
  match groups with
  | [0, 0, 0, 0, 0, 0xffff, x, y] => "::ffff:" ++ dottedText [x / 256, x % 256, y / 256, y % 256]
  | _ =>
    let colon (gs : List Nat) := ":".intercalate (gs.map hexText)
    let (start, len) := longestZeroRun groups
    if len > 1 then colon (groups.take start) ++ "::" ++ colon (groups.drop (start + len))
    else colon groups

namespace SocketAddr

/-- Read a socket address from the whole of a text. -/
def parse? (raw : String) : Option SocketAddr :=
  match (Scan.socketV4 <|> Scan.socketV6).run raw.toList with
  | some (addr, []) => some addr
  | _ => none

/-- The text of a socket address. -/
def text (a : SocketAddr) : String :=
  match a.ip with
  | .v4 octets => dottedText octets ++ ":" ++ toString a.port
  | .v6 groups =>
    "[" ++ ipv6Text groups ++ (if a.scope = 0 then "" else "%" ++ toString a.scope) ++ "]:" ++
      toString a.port

end SocketAddr

/-- The message of a text that is not a socket address. -/
def socketAddrError : String := "invalid socket address syntax"

end TagAtlas
