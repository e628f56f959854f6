import TagAtlas.Text.PrintTable
/-! Texts quoted for messages: between double quotes, with the quote, the backslash, the
common control characters written as `\0`, `\t`, `\r`, `\n`, and other characters written as
`\u` with braces around their hexadecimal code when they extend a grapheme or do not print. -/
namespace TagAtlas

namespace Quote

/-- Whether a character is written as a `\u` escape: it extends a grapheme, or it does not
print. -/
def hidden (c : Char) : Bool := Text.isGraphemeExtend c || !Text.isPrintable c

/-- The written form of one character inside quotes. -/
def escapeChar (c : Char) : String :=
  match c with
  | '\x00' => "\\0"
  | '\t' => "\\t"
  | '\r' => "\\r"
  | '\n' => "\\n"
  | '\\' => "\\\\"
  | '"' => "\\\""
  | _ => if hidden c then "\\u\x7b" ++ String.ofList (Nat.toDigits 16 c.toNat) ++ "\x7d" else c.toString

/-- A text between double quotes, escaped. -/
def quoted (s : String) : String := "\"" ++ String.join (s.toList.map escapeChar) ++ "\""

example : quoted "a\"b\n" = "\"a\\\"b\\n\"" := by decide

example : quoted "x\u00a0y\u0e31" = "\"x\\u\x7ba0\x7dy\\u\x7be31\x7d\"" := by decide

end Quote

end TagAtlas
