import TagAtlas.Text.Utf8
/-! Form-encoded text, as in a URL query: pairs separated by `&`, each a name and a value
split at the first `=`, empty pairs skipped. In names and values `+` stands for a blank and
`%` with two hexadecimal digits for a byte; a `%` without them stands for itself. The bytes
are then read as UTF-8 with replacement. -/
namespace TagAtlas

namespace Form

/-- The value of a hexadecimal digit. -/
def hexValue (c : Char) : Option Nat :=
  if c.isDigit then some (c.toNat - '0'.toNat)
  else if 'a' ≤ c && c ≤ 'f' then some (c.toNat - 'a'.toNat + 10)
  else if 'A' ≤ c && c ≤ 'F' then some (c.toNat - 'A'.toNat + 10)
  else none

/-- The bytes of an encoded component. -/
def componentBytes : List Char → List Nat
  | [] => []
  | '%' :: h :: l :: rest =>
    match hexValue h, hexValue l with
    | some a, some b => (16 * a + b) :: componentBytes rest
    | _, _ => '%'.toNat :: componentBytes (h :: l :: rest)
  | '+' :: rest => ' '.toNat :: componentBytes rest
  | c :: rest => Utf8.encodeChar c ++ componentBytes rest

/-- Decode one component. -/
def decodeComponent (raw : String) : String :=
  String.ofList (Utf8.decodeLossy (componentBytes raw.toList))

/-- The name and value of one pair, split at the first `=`. -/
def decodePair (part : String) : String × String :=
  let cs := part.toList
  let name := cs.takeWhile (· != '=')
  let value := (cs.dropWhile (· != '=')).drop 1
  (decodeComponent (String.ofList name), decodeComponent (String.ofList value))

/-- The pairs of a form-encoded text, in order. -/
def pairs (raw : String) : List (String × String) :=
  ((raw.splitOn "&").filter (!·.isEmpty)).map decodePair

end Form

end TagAtlas
