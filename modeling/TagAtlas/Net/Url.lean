import TagAtlas.Net.Domain.Ascii
import TagAtlas.Net.SocketAddr
import TagAtlas.Text.Utf8
/-! Absolute URLs as web browsers read them, reduced to what a client of a URL looks at: the
scheme, the user name and password, the host, the port, the path and the query.

Reading first trims controls and blanks from both ends and drops tabs and line breaks. The
scheme is a letter followed by letters, digits, `+`, `-` and `.`, ending in a colon; without
one the text is relative, and there is no base to resolve it against. Six schemes are special
(`http`, `https`, `ws`, `wss`, `ftp`, `file`): they always have a host, take a backslash as a
slash, and read their host as a domain name or an IPv4 address. Other schemes have a host only
after `//`, and it is kept as written unless it is a bracketed IPv6 address.

The user name, password, path and query keep their percent escapes. A port equal to the
scheme's default port is no port. -/
namespace TagAtlas

/-- Why a text is not an absolute URL. -/
inductive UrlError
  | relativeWithoutBase
  | emptyHost
  | invalidPort
  | invalidIpv4
  | invalidIpv6
  | invalidDomainCharacter
  | invalidDomain
  deriving DecidableEq, Repr

/-- The text of a URL error. -/
def UrlError.message : UrlError → String
  | .relativeWithoutBase => "relative URL without a base"
  | .emptyHost => "empty host"
  | .invalidPort => "invalid port number"
  | .invalidIpv4 => "invalid IPv4 address"
  | .invalidIpv6 => "invalid IPv6 address"
  | .invalidDomainCharacter => "invalid domain character"
  | .invalidDomain => "invalid international domain name"

/-- A host: a name, or an address. -/
inductive UrlHost
  | name (text : String)
  | v4 (octets : List Nat)
  | v6 (groups : List Nat)
  deriving Repr, BEq

/-- The parts of an absolute URL. -/
structure Url where
  scheme : String
  username : String := ""
  password : Option String := none
  host : Option UrlHost := none
  port : Option Nat := none
  path : String := ""
  query : Option String := none
  deriving Repr

namespace Url

/-- The special schemes and their default ports. -/
def specialSchemes : List (String × Option Nat) :=
  [("ftp", some 21), ("file", none), ("http", some 80), ("https", some 443), ("ws", some 80),
   ("wss", some 443)]

/-- Whether a scheme is special. -/
def isSpecial (scheme : String) : Bool := specialSchemes.any (·.1 == scheme)

/-- The default port of a scheme. -/
def defaultPort (scheme : String) : Option Nat := (specialSchemes.lookup scheme).join

/-- The characters read: controls and blanks trimmed from both ends, tabs and line breaks
removed. -/
def prepare (raw : String) : List Char :=
  let edge (c : Char) := c.toNat ≤ 0x20
  (((raw.toList.dropWhile edge).reverse.dropWhile edge).reverse).filter
    fun c => c != '\t' && c != '\n' && c != '\r'

/-- The scheme, lowercased, and the characters after its colon. -/
def splitScheme : List Char → Option (String × List Char)
  | c :: rest =>
    if c.isAlpha then
      let body := rest.takeWhile fun d => d.isAlphanum || d == '+' || d == '-' || d == '.'
      match rest.drop body.length with
      | ':' :: after => some (String.ofList ((c :: body).map Char.toLower), after)
      | _ => none
    else none
  | [] => none

/-- The bytes of percent-escaped characters: `%` with two hexadecimal digits is a byte, any
other character its UTF-8 bytes. -/
def unescape : List Char → List Nat
  | [] => []
  | '%' :: h :: l :: rest =>
    match Scan.digitValue 16 h, Scan.digitValue 16 l with
    | some a, some b => (16 * a + b) :: unescape rest
    | _, _ => '%'.toNat :: unescape (h :: l :: rest)
  | c :: rest => Utf8.encodeChar c ++ unescape rest

/-- A character no host may hold. -/
def forbiddenInHost (c : Char) : Bool :=
  c == '\x00' || c == '\t' || c == '\n' || c == '\r' || c == ' ' || c == '#' || c == '/' ||
    c == ':' || c == '<' || c == '>' || c == '?' || c == '@' || c == '[' || c == '\\' ||
    c == ']' || c == '^' || c == '|'

/-- A character no domain may hold: those no host may hold, controls, `%` and delete. -/
def forbiddenInDomain (c : Char) : Bool :=
  forbiddenInHost c || c.toNat < 0x20 || c == '%' || c.toNat = 0x7F

/-- The IPv6 address of a bracketed host. -/
def bracketed (raw : List Char) : Except UrlError UrlHost :=
  if raw.getLast? != some ']' then .error .invalidIpv6
  else
    match Scan.ipv6.run ((raw.drop 1).dropLast) with
    | some (groups, []) => .ok (.v6 groups)
    | _ => .error .invalidIpv6

/-- A number of an IPv4 address: hexadecimal after `0x`, octal after a leading zero, decimal
otherwise, and zero when nothing follows the prefix. None when a digit does not belong; the
value may exceed 32 bits. -/
def ipv4Number (part : String) : Option Nat :=
  let cs := part.toList
  let (radix, digits) := match cs with
    | '0' :: 'x' :: rest => (16, rest)
    | '0' :: 'X' :: rest => (16, rest)
    | '0' :: d :: rest => (8, d :: rest)
    | _ => (10, cs)
  if cs.isEmpty then none
  else if digits.all fun c => (Scan.digitValue radix c).isSome then
    some (digits.foldl (fun n c => radix * n + (Scan.digitValue radix c).getD 0) 0)
  else none

/-- The dot-separated parts of a would-be IPv4 address, one trailing empty part dropped. -/
def ipv4Parts (domain : String) : List String :=
  let parts := domain.splitOn "."
  if parts.getLast? == some "" && parts.length > 1 then parts.dropLast else parts

/-- Whether a domain ends in a number, and so must be an IPv4 address: its last part, a trailing
empty part aside, is decimal digits or reads as a number. -/
def endsInNumber (domain : String) : Bool :=
  match (ipv4Parts domain).getLast? with
  | some last => (!last.isEmpty && last.all Char.isDigit) || (ipv4Number last).isSome
  | none => false

/-- The IPv4 address of a domain that ends in a number: up to four numbers, each before the
last at most 255, the last filling the octets left. -/
def ipv4Host (domain : String) : Except UrlError UrlHost := do
  let parts := ipv4Parts domain
  if parts.length > 4 then throw .invalidIpv4
  let numbers ← parts.mapM fun p => match ipv4Number p with
    | some n => if n < Nat.pow 2 32 then pure n else throw .invalidIpv4
    | none => throw .invalidIpv4
  let front := numbers.dropLast
  let last := numbers.getLastD 0
  if last ≥ Nat.pow 256 (4 - front.length) then throw .invalidIpv4
  if front.any (· > 255) then throw .invalidIpv4
  let value := front.zipIdx.foldl (fun v (n, i) => v + n * Nat.pow 256 (3 - i)) last
  pure (.v4 [value / Nat.pow 2 24, value / Nat.pow 2 16 % 256, value / 256 % 256, value % 256])

/-- The host of a special URL: unescaped, brought to its ASCII form with the characters no
domain may hold denied, and read as an IPv4 address when it ends in a number. -/
def specialHost (raw : List Char) : Except UrlError UrlHost :=
  if raw.head? == some '[' then bracketed raw
  else
    let bytes := unescape raw
    if !Utf8.valid bytes then .error .invalidDomain
    else
      match Domain.toAscii? forbiddenInDomain (Utf8.decodeLossy bytes) with
      | none => .error .invalidDomain
      | some domain =>
        if domain.isEmpty then .error .emptyHost
        else if endsInNumber domain then ipv4Host domain
        else .ok (.name domain)

/-- The host of another URL: none when empty, an IPv6 address when bracketed, and otherwise
the name as written, which may not hold a forbidden character. -/
def opaqueHost (raw : List Char) : Except UrlError (Option UrlHost) :=
  if raw.isEmpty then .ok none
  else if raw.head? == some '[' then some <$> bracketed raw
  else if raw.any forbiddenInHost then .error .invalidDomainCharacter
  else .ok (some (.name (String.ofList raw)))

/-- Split the host from what follows it: the host ends at a colon outside brackets, or at a
slash, question mark or hash (or a backslash in a special URL). -/
def hostSpan (special : Bool) : Bool → List Char → List Char × List Char
  | _, [] => ([], [])
  | inside, c :: rest =>
    if (c == ':' && !inside) || c == '/' || c == '?' || c == '#' || (special && c == '\\') then
      ([], c :: rest)
    else
      let r := hostSpan special (if c == '[' then true else if c == ']' then false else inside) rest
      (c :: r.1, r.2)

/-- Read a port: digits up to a slash, backslash, question mark, hash or the end, at most
65535; none when there are no digits. -/
def readPort : Option Nat → List Char → Except UrlError (Option Nat × List Char)
  | acc, [] => .ok (acc, [])
  | acc, c :: rest =>
    if c.isDigit then
      let v := 10 * acc.getD 0 + (c.toNat - '0'.toNat)
      if v > 65535 then .error .invalidPort else readPort (some v) rest
    else if c == '/' || c == '\\' || c == '?' || c == '#' then .ok (acc, c :: rest)
    else .error .invalidPort

/-- The index of the last `@` in characters. -/
def lastAt (cs : List Char) : Option Nat :=
  cs.zipIdx.foldl (fun best (c, i) => if c == '@' then some i else best) none

/-- Fill in the path and query from what follows the host. -/
def withPath (u : Url) (rest : List Char) : Url :=
  let beforeHash := rest.takeWhile (· != '#')
  let path := beforeHash.takeWhile (· != '?')
  let query := match beforeHash.drop path.length with
    | '?' :: q => some (String.ofList q)
    | _ => none
  { u with path := String.ofList path, query }

/-- Read what follows `//`: user information up to the last `@` of the authority, the host,
the port, then the path and query. -/
def authority (scheme : String) (cs : List Char) : Except UrlError Url := do
  let special := isSpecial scheme
  let stop (c : Char) := c == '/' || c == '?' || c == '#' || (special && c == '\\')
  let head := cs.takeWhile (!stop ·)
  let (user, password, rest) ← match lastAt head with
    | none => pure ([], none, cs)
    | some 0 =>
      match cs.drop 1 with
      | c :: _ => if stop c then throw UrlError.emptyHost else pure ([], none, cs.drop 1)
      | [] => pure ([], none, [])
    | some k =>
      let info := head.take k
      let user := info.takeWhile (· != ':')
      let password := (info.drop (user.length + 1))
      pure (user, if password.isEmpty then none else some password, cs.drop (k + 1))
  let named := !user.isEmpty || password.isSome
  let (hostText, rest) := hostSpan special false rest
  let host ← if special then
      if hostText.isEmpty then throw UrlError.emptyHost else some <$> specialHost hostText
    else opaqueHost hostText
  if host.isNone && rest.head? == some ':' then throw .emptyHost
  let (port, rest) ← match rest with
    | ':' :: after => readPort none after
    | _ => pure (none, rest)
  if host.isNone && named then throw .emptyHost
  let port := if port == defaultPort scheme then none else port
  pure (withPath { scheme, username := String.ofList user, password := password.map String.ofList,
                   host, port } rest)

/-- Read a `file` URL: a host after two slashes, none when empty, `localhost` or a drive
letter. -/
def fileUrl (cs : List Char) : Except UrlError Url := do
  let slash (c : Char) := c == '/' || c == '\\'
  match cs with
  | a :: b :: rest =>
    if slash a && slash b then
      let hostText := rest.takeWhile fun c => !slash c && c != '?' && c != '#'
      let after := rest.drop hostText.length
      let drive := match hostText with
        | [d, e] => d.isAlpha && (e == ':' || e == '|')
        | _ => false
      if hostText.isEmpty || drive then pure (withPath { scheme := "file" } (if drive then rest else after))
      else
        match ← specialHost hostText with
        | .name "localhost" => pure (withPath { scheme := "file" } after)
        | h => pure (withPath { scheme := "file", host := some h } after)
    else pure (withPath { scheme := "file" } cs)
  | _ => pure (withPath { scheme := "file" } cs)

/-- Read an absolute URL. -/
def parse (raw : String) : Except UrlError Url :=
  match splitScheme (prepare raw) with
  | none => .error .relativeWithoutBase
  | some (scheme, rest) =>
    if scheme == "file" then fileUrl rest
    else if isSpecial scheme then authority scheme (rest.dropWhile fun c => c == '/' || c == '\\')
    else
      match rest with
      | '/' :: '/' :: after => authority scheme after
      | _ => .ok (withPath { scheme } rest)

end Url

end TagAtlas
