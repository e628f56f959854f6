/-! Which texts are URIs that a request target may name. A URI is a path (starting with `/`),
`*`, a bare authority (`host:port`), or a scheme followed by `://`, a non-empty authority and
an optional path and query. A fragment after `#` is cut off unread.

An authority holds only the characters allowed in a URI; it may have one bracketed IPv6
host, at most one port colon after any user information, a `%` only in the user information,
and something after an `@`. Paths and queries refuse blanks, control characters and a few
marks (`<`, `>`, and in a path also the backquote, in a query also `"`). -/
namespace TagAtlas

namespace Uri

/-- Characters allowed in a URI outside of percent escapes. -/
def uriChar (c : Char) : Bool :=
  c.isAlphanum || "!#$&'()*+,-./:;=?@[]_~".toList.contains c

/-- Characters allowed in a scheme; the colon ends it. -/
def schemeChar (c : Char) : Bool := c.isAlphanum || c == '+' || c == '-' || c == '.'

/-- The longest scheme. -/
def maxSchemeLength : Nat := 64

/-- How the front of a text names a scheme: the length to strip, `none` when there is no
scheme, or a failure when the scheme is too long. -/
def schemePrefix (cs : List Char) : Except Unit (Option Nat) :=
  let lower := cs.map Char.toLower
  if lower.take 7 == "http://".toList then .ok (some 7)
  else if lower.take 8 == "https://".toList then .ok (some 8)
  else if cs.length ≤ 3 then .ok none
  else
    let name := cs.takeWhile schemeChar
    match cs.drop name.length with
    | ':' :: '/' :: '/' :: _ =>
      if name.length > maxSchemeLength then .error () else .ok (some (name.length + 3))
    | _ => .ok none

/-- The state of an authority scan. -/
structure AuthorityScan where
  colons : Nat := 0
  opened : Bool := false
  closed : Bool := false
  percent : Bool := false
  atEnd : Bool := false

/-- The length of the authority at the front of a text, ending before `/`, `?` or `#`, or a
failure when it is not well formed. -/
def authorityLength (cs : List Char) : Except Unit Nat :=
  let body := cs.takeWhile fun c => c != '/' && c != '?' && c != '#'
  let step (st : AuthorityScan) (c : Char) : Except Unit AuthorityScan :=
    if c == ':' then
      if st.colons ≥ 8 then .error () else .ok { st with colons := st.colons + 1, atEnd := false }
    else if c == '[' then
      if st.percent || st.opened then .error () else .ok { st with opened := true, atEnd := false }
    else if c == ']' then
      if !st.opened || st.closed then .error ()
      else .ok { st with closed := true, colons := 0, percent := false, atEnd := false }
    else if c == '@' then .ok { st with colons := 0, percent := false, atEnd := true }
    else if c == '%' then .ok { st with percent := true, atEnd := false }
    else if uriChar c then .ok { st with atEnd := false }
    else .error ()
  match body.foldlM step {} with
  | .error _ => .error ()
  | .ok st =>
    if st.opened != st.closed || st.colons > 1 || st.atEnd || st.percent then .error ()
    else .ok body.length

/-- A character allowed unescaped in a path. -/
def pathChar (c : Char) : Bool :=
  let n := c.toNat
  n == 0x21 || (0x24 ≤ n && n ≤ 0x3B) || n == 0x3D || (0x40 ≤ n && n ≤ 0x5F) ||
    (0x61 ≤ n && n ≤ 0x7A) || n == 0x7C || n ≥ 0x7E || c == '"' || c == '{' || c == '}'

/-- A character allowed unescaped in a query. -/
def queryChar (c : Char) : Bool :=
  let n := c.toNat
  n == 0x21 || (0x24 ≤ n && n ≤ 0x3B) || n == 0x3D || n ≥ 0x3F

/-- Whether a path with an optional query and fragment is well formed. -/
def pathAndQueryValid (cs : List Char) : Bool :=
  let path := cs.takeWhile fun c => c != '?' && c != '#'
  let rest := cs.drop path.length
  path.all pathChar &&
    match rest with
    | '?' :: query => (query.takeWhile (· != '#')).all queryChar
    | _ => true

/-- Whether a text is a URI. -/
def isValid (raw : String) : Bool :=
  let cs := raw.toList
  if raw.utf8ByteSize > 65534 then false
  else
    match cs with
    | [] => false
    | ['/'] | ['*'] => true
    | [_] =>
      match authorityLength cs with
      | .ok n => n == 1
      | .error _ => false
    | '/' :: _ => pathAndQueryValid cs
    | _ =>
      match schemePrefix cs with
      | .error _ => false
      | .ok none =>
        match authorityLength cs with
        | .ok n => n == cs.length
        | .error _ => false
      | .ok (some skip) =>
        let rest := cs.drop skip
        match authorityLength rest with
        | .ok 0 => false
        | .ok n => pathAndQueryValid (rest.drop n)
        | .error _ => false

/-- The path and query of a target, a fragment cut off: the query follows the first `?`. -/
def splitTarget (cs : List Char) : String × String :=
  let cs := cs.takeWhile (· != '#')
  let path := cs.takeWhile (· != '?')
  (String.ofList path, String.ofList ((cs.drop path.length).drop 1))

/-- The path and query a request target names. A path names itself; after a scheme and an
authority, what follows the authority is the path, `/` when it is empty; any other target
has an empty path and no query. -/
def pathAndQuery (raw : String) : String × String :=
  let cs := raw.toList
  match cs with
  | '/' :: _ => splitTarget cs
  | _ =>
    match schemePrefix cs with
    | .ok (some skip) =>
      let rest := cs.drop skip
      match authorityLength rest with
      | .ok n =>
        let (path, query) := splitTarget (rest.drop n)
        (if path.isEmpty then "/" else path, query)
      | .error _ => ("", "")
    | _ => ("", "")

/-- The text a request target shows as: without its fragment, with `http` and `https` in small
letters, and with `/` for an empty path after an authority. -/
def shown (raw : String) : String :=
  let cs := raw.toList
  let cut (cs : List Char) := cs.takeWhile (· != '#')
  match cs with
  | '/' :: _ => String.ofList (cut cs)
  | _ =>
    match schemePrefix cs with
    | .ok (some skip) =>
      let scheme := cs.take (skip - 3)
      let lower := String.ofList (scheme.map Char.toLower)
      let scheme := if lower == "http" || lower == "https" then lower else String.ofList scheme
      let rest := cs.drop skip
      match authorityLength rest with
      | .ok n =>
        let tail := cut (rest.drop n)
        let slash := if tail.isEmpty || tail.head? == some '?' then "/" else ""
        scheme ++ "://" ++ String.ofList (rest.take n) ++ slash ++ String.ofList tail
      | .error _ => raw
    | _ => String.ofList (cut cs)

example : shown "HTTP://h?x=1#f" = "http://h/?x=1" ∧ shown "/a?b#c" = "/a?b" ∧
    shown "grpc://H/x" = "grpc://H/x" := by decide +kernel

example : pathAndQuery "/v1/tagmap?view=single#top" = ("/v1/tagmap", "view=single") ∧
    pathAndQuery "HTTP://u@h:80/health/live?x=1" = ("/health/live", "x=1") ∧
    pathAndQuery "http://h" = ("/", "") ∧ pathAndQuery "h:80" = ("", "") := by
  decide +kernel

end Uri

end TagAtlas
