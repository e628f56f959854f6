import TagAtlas.Net.SocketAddr
/-! Binding a listener to a socket address, as an unprivileged process on a host whose only
addresses are the loopback ones. A port below 1024 other than 0 needs a privilege the process
lacks, and is refused before the address is looked at. The address must then be unspecified
or a loopback address (`127.0.0.0/8` or `::1`); an IPv4 address mapped into IPv6 follows the
IPv4 rule. Port 0 asks for any free port. -/
namespace TagAtlas

/-- Why a bind fails, as the system words it. -/
inductive BindError
  | permissionDenied
  | addressUnavailable
  deriving DecidableEq, Repr

/-- The text of a bind error. -/
def BindError.message : BindError → String
  | .permissionDenied => "Permission denied (os error 13)"
  | .addressUnavailable => "Cannot assign requested address (os error 99)"

/-- Whether an IPv4 address can be bound: unspecified or loopback. -/
def bindableV4 (octets : List Nat) : Bool :=
  octets == [0, 0, 0, 0] || octets.head? == some 127

/-- Whether an IP address can be bound. -/
def IpAddr.bindable : IpAddr → Bool
  | .v4 octets => bindableV4 octets
  | .v6 groups =>
    match groups with
    | [0, 0, 0, 0, 0, 0xffff, x, y] => bindableV4 [x / 256, x % 256, y / 256, y % 256]
    | _ => groups == [0, 0, 0, 0, 0, 0, 0, 0] || groups == [0, 0, 0, 0, 0, 0, 0, 1]

/-- Bind a listener to a socket address. -/
def SocketAddr.bind (a : SocketAddr) : Except BindError Unit :=
  if 0 < a.port && a.port < 1024 then .error .permissionDenied
  else if a.ip.bindable then .ok ()
  else .error .addressUnavailable

example : (SocketAddr.mk (.v4 [8, 8, 8, 8]) 80 0).bind = .error .permissionDenied := rfl
example : (SocketAddr.mk (.v4 [127, 0, 0, 1]) 0 0).bind = .ok () := rfl

end TagAtlas
