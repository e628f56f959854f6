import TagAtlas.Decimal.Text
/-! JSON documents and their text. Objects keep their members in order. The compact text has
no blanks; the pretty text puts each member and element on its own line, indented by two
spaces per level. Strings escape the quote, the backslash and control characters; a double
is written in the data style of `Decimal`, and a double that is not finite as `null`. -/
namespace TagAtlas

/-- A JSON document. -/
inductive Json where
  | null
  | bool (b : Bool)
  | int (n : Int)
  | float (x : Float)
  | str (s : String)
  | arr (items : List Json)
  | obj (members : List (String × Json))
  deriving Inhabited

namespace Json

/-- The hexadecimal digit of a value below sixteen. -/
def hexDigit (n : Nat) : Char := "0123456789abcdef".toList.getD n '0'

/-- The escaped form of one character inside a string. -/
def escapeChar (c : Char) : String :=
  if c = '"' then "\\\"" else if c = '\\' then "\\\\"
  else if c = '\n' then "\\n" else if c = '\r' then "\\r" else if c = '\t' then "\\t"
  else if c.toNat = 8 then "\\b" else if c.toNat = 12 then "\\f"
  else if c.toNat < 0x20 then
    "\\u00" ++ String.singleton (hexDigit (c.toNat / 16)) ++ String.singleton (hexDigit (c.toNat % 16))
  else String.singleton c

/-- A string literal. -/
def quote (s : String) : String := "\"" ++ String.join (s.toList.map escapeChar) ++ "\""

/-- The text of a double: data style, `null` when not finite. -/
def floatText (x : Float) : String :=
  if x.isNaN || x.isInf then "null" else Decimal.dataText x

mutual
/-- The compact text of a document. -/
def compact : Json → String
  | null => "null"
  | bool b => if b then "true" else "false"
  | int n => toString n
  | float x => floatText x
  | str s => quote s
  | arr items => "[" ++ compactItems items ++ "]"
  | obj members => "\x7b" ++ compactMembers members ++ "\x7d"

/-- The compact text of array elements, comma separated. -/
def compactItems : List Json → String
  | [] => ""
  | [j] => compact j
  | j :: rest => compact j ++ "," ++ compactItems rest

/-- The compact text of object members, comma separated. -/
def compactMembers : List (String × Json) → String
  | [] => ""
  | [(k, j)] => quote k ++ ":" ++ compact j
  | (k, j) :: rest => quote k ++ ":" ++ compact j ++ "," ++ compactMembers rest
end

/-- Two spaces per level. -/
def indent (level : Nat) : String := String.ofList (List.replicate (2 * level) ' ')

mutual
/-- The pretty text of a document whose first line stands at `level`. -/
def pretty (level : Nat) : Json → String
  | arr [] => "[]"
  | obj [] => "\x7b\x7d"
  | arr items => "[\n" ++ prettyItems (level + 1) items ++ "\n" ++ indent level ++ "]"
  | obj members => "\x7b\n" ++ prettyMembers (level + 1) members ++ "\n" ++ indent level ++ "\x7d"
  | j => compact j

/-- Array elements, one per line. -/
def prettyItems (level : Nat) : List Json → String
  | [] => ""
  | [j] => indent level ++ pretty level j
  | j :: rest => indent level ++ pretty level j ++ ",\n" ++ prettyItems level rest

/-- Object members, one per line. -/
def prettyMembers (level : Nat) : List (String × Json) → String
  | [] => ""
  | [(k, j)] => indent level ++ quote k ++ ": " ++ pretty level j
  | (k, j) :: rest => indent level ++ quote k ++ ": " ++ pretty level j ++ ",\n" ++ prettyMembers level rest
end

/-- The pretty text of a document. -/
def prettyText (j : Json) : String := pretty 0 j

/-- A list of documents. -/
def ofList {α : Type} (f : α → Json) (xs : List α) : Json := arr (xs.map f)

/-- An optional value, `null` when absent. -/
def ofOption {α : Type} (f : α → Json) : Option α → Json
  | some a => f a
  | none => null

end Json

end TagAtlas
