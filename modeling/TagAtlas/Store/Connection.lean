import TagAtlas.Http.Form
import TagAtlas.Net.Url
import TagAtlas.Numeral.Integer
import TagAtlas.Text.Quote
/-! Checking a database connection string before any connection is made. The string is read
as an absolute URL; its host, user name, password and database name (the path without its
leading slashes) must unescape to UTF-8 where they are used, and the query names connection
parameters. A parameter with a value of the wrong form stops the check; a parameter the
database does not know is ignored, and reported.

A fault is a chain of messages, outermost first: a configuration fault wraps its cause, and
its message repeats the cause's after `error with configuration: `. -/
namespace TagAtlas

namespace Connection

/-- A configuration fault around a chain of causes. -/
def configFault (causes : List String) : List String :=
  ("error with configuration: " ++ causes.headD "") :: causes

/-- The transport security modes, by name. -/
def sslModes : List String := ["disable", "allow", "prefer", "require", "verify-ca", "verify-full"]

/-- The range of port numbers. -/
def portRange : Numeral.IntRange := ⟨false, 0, 65535⟩

/-- The fault of a value that is not an integer of a range, if it is not. -/
def intFault (range : Numeral.IntRange) (value : String) : Option (List String) :=
  match Numeral.readInt range value with
  | .ok _ => none
  | .error e => some (configFault [e.message])

/-- Whether a text is an IPv4 or IPv6 address. -/
def isIpAddr (value : String) : Bool :=
  match (Scan.ipv4 <|> Scan.ipv6).run value.toList with
  | some (_, []) => true
  | _ => false

/-- The verdict on one parameter: none when it is known and well-formed, the fault when it is
known and ill-formed, and `[]` when it is unknown. -/
def checkParameter (key value : String) : Option (List String) :=
  if key == "sslmode" || key == "ssl-mode" then
    if sslModes.contains (String.ofList (value.toList.map Char.toLower)) then none
    else
      some (configFault (configFault
        ["unknown value " ++ Quote.quoted value ++ " for " ++ "`ssl_mode`"]))
  else if key == "statement-cache-capacity" then intFault .u64 value
  else if key == "port" then intFault portRange value
  else if key == "hostaddr" then
    if isIpAddr value then none else some (configFault ["invalid IP address syntax"])
  else if ["sslrootcert", "ssl-root-cert", "ssl-ca", "sslcert", "ssl-cert", "sslkey", "ssl-key",
      "host", "dbname", "user", "password", "application_name", "options"].contains key ||
      key.startsWith "options[" then none
  else some []

/-- The fault of an escaped part that does not unescape to UTF-8. -/
def utf8Fault (escaped : String) : Option (List String) :=
  (Utf8.firstFault 0 (Url.unescape escaped.toList)).map fun f => configFault [f.message]

/-- What checking a connection string finds: the unknown parameters met, as name and value,
and the fault that stopped the check, if any. -/
structure Check where
  ignored : List (String × String) := []
  fault : Option (List String) := none
  deriving Repr

/-- Check the parameters in order, up to the first fault. -/
def checkParameters : List (String × String) → Check
  | [] => {}
  | (key, value) :: rest =>
    match checkParameter key value with
    | none => checkParameters rest
    | some [] =>
      let c := checkParameters rest
      { c with ignored := (key, value) :: c.ignored }
    | some fault => { fault := some fault }

/-- The parts of a URL that must unescape to UTF-8: a host that unescapes to a path, the user
name, the password and the database name. -/
def escapedParts (u : Url) : List String :=
  let host := match u.host with
    | some (.name h) => if (Url.unescape h.toList).head? == some '/'.toNat then [h] else []
    | _ => []
  let user := if u.username.isEmpty then [] else [u.username]
  let database := String.ofList (u.path.toList.dropWhile (· == '/'))
  host ++ user ++ u.password.toList ++ (if database.isEmpty then [] else [database])

/-- Check a connection string. -/
def check (dsn : String) : Check :=
  match Url.parse dsn with
  | .error e => { fault := some (configFault [e.message]) }
  | .ok u =>
    match (escapedParts u).findSome? utf8Fault with
    | some fault => { fault := some fault }
    | none => checkParameters (Form.pairs (u.query.getD ""))

end Connection

end TagAtlas
