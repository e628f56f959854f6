import TagAtlas.Json.Value
import TagAtlas.Numeral.Scaled
import TagAtlas.Text.Utf8
/-! Reading JSON text as a stream of bytes, the way a streaming reader meets it: one byte of
look-ahead, and errors that name the line and column reached.

The position of an error counts the bytes taken from the stream, the byte looked at included:
the line is one more than the number of line feeds taken, the column the number of bytes taken
since the last line feed. The texts of the errors are fixed (`EOF while parsing a value`,
`key must be a string`, …).

The module reads the pieces every JSON reader needs (blanks, literals, strings with escapes,
numbers as unsigned, negative or floating values), any value into a `Json` document, and skips
a value while still checking its syntax. -/
namespace TagAtlas

/-- A read error: its text and where it was met. -/
structure ReadError where
  message : String
  line : Nat
  column : Nat
  deriving Repr, BEq, Inhabited

/-- The text of a read error with its place. -/
def ReadError.text (e : ReadError) : String :=
  e.message ++ " at line " ++ toString e.line ++ " column " ++ toString e.column

/-- A place in a stream of bytes: the next byte to use, and whether it has been looked at. -/
structure Cursor where
  bytes : Array UInt8
  pos : Nat := 0
  held : Bool := false

namespace Cursor

/-- The cursor at the start of a text. -/
def ofString (s : String) : Cursor := { bytes := ((Utf8.encode s).map UInt8.ofNat).toArray }

/-- The number of bytes taken from the stream. -/
def taken (c : Cursor) : Nat := if c.held && c.pos < c.bytes.size then c.pos + 1 else c.pos

/-- The line and column reached. -/
def place (c : Cursor) : Nat × Nat :=
  (c.bytes.extract 0 c.taken).foldl (fun (line, col) (b : UInt8) => if b = 10 then (line + 1, 0) else (line, col + 1))
    (1, 0)

/-- The bytes not yet used. -/
def remaining (c : Cursor) : Nat := c.bytes.size - c.pos

end Cursor

/-- A reading step. -/
abbrev Reader := StateT Cursor (Except ReadError)

namespace Reader

/-- Fail with a text at the place reached. -/
def fail {α : Type} (message : String) : Reader α := do
  let (line, column) := (← get).place
  throw ⟨message, line, column⟩

/-- Look at the next byte without using it. -/
def peek : Reader (Option UInt8) := do
  let c ← get
  match c.bytes[c.pos]? with
  | some b => set { c with held := true }; pure (some b)
  | none => pure none

/-- Use the next byte. -/
def bump : Reader Unit := modify fun c => { c with pos := c.pos + 1, held := false }

/-- Take the next byte. -/
def next : Reader (Option UInt8) := do
  let c ← get
  match c.bytes[c.pos]? with
  | some b => set { c with pos := c.pos + 1, held := false }; pure (some b)
  | none => pure none

/-- Whether a byte is a JSON blank. -/
def isBlank (b : UInt8) : Bool := b = 32 || b = 10 || b = 9 || b = 13

/-- Skip blanks and look at the next byte. -/
def skipBlank : Reader (Option UInt8) := do
  let rec go : Nat → Reader (Option UInt8)
    | 0 => peek
    | fuel + 1 => do
      match ← peek with
      | some b => if isBlank b then bump *> go fuel else pure (some b)
      | none => pure none
  go ((← get).remaining + 1)

/-- Read the rest of a literal whose first byte was used. -/
def literal (rest : String) : Reader Unit :=
  (Utf8.encode rest).forM fun expected => do
    match ← next with
    | some b => if b.toNat = expected then pure () else fail "expected ident"
    | none => fail "EOF while parsing a value"

/-- The value of a hexadecimal digit byte. -/
def hexValue (b : UInt8) : Option Nat :=
  let n := b.toNat
  if 48 ≤ n && n ≤ 57 then some (n - 48)
  else if 97 ≤ n && n ≤ 102 then some (n - 87)
  else if 65 ≤ n && n ≤ 70 then some (n - 55)
  else none

/-- Read four hexadecimal digits of an escape. -/
def hexEscape : Reader Nat := do
  let mut v := 0
  for _ in [0:4] do
    match ← next with
    | none => fail "EOF while parsing a string"
    | some b =>
      match hexValue b with
      | some d => v := 16 * v + d
      | none => fail "invalid escape"
  pure v

/-- Read the character of a `\u` escape, joining a surrogate pair. -/
def unicodeEscape : Reader Char := do
  let n ← hexEscape
  if 0xDC00 ≤ n && n ≤ 0xDFFF then fail "lone leading surrogate in hex escape"
  else if 0xD800 ≤ n && n ≤ 0xDBFF then
    match ← peek with
    | some 92 => bump
    | some _ => bump; fail "unexpected end of hex escape"
    | none => fail "EOF while parsing a string"
    match ← peek with
    | some 117 => bump
    | some _ => bump; fail "unexpected end of hex escape"
    | none => fail "EOF while parsing a string"
    let m ← hexEscape
    if m < 0xDC00 || m > 0xDFFF then fail "lone leading surrogate in hex escape"
    else pure (Char.ofNat ((n - 0xD800) * 1024 + (m - 0xDC00) + 0x10000))
  else pure (Char.ofNat n)

/-- Read the rest of a string whose opening quote was used. -/
def stringBody : Reader String := do
  let rec go : Nat → List Nat → Reader (List Nat)
    | 0, acc => pure acc
    | fuel + 1, acc => do
      match ← next with
      | none => fail "EOF while parsing a string"
      | some 34 => pure acc
      | some 92 =>
        match ← next with
        | none => fail "EOF while parsing a string"
        | some e =>
          let simple := match e.toNat with
            | 34 => some 34 | 92 => some 92 | 47 => some 47 | 98 => some 8
            | 102 => some 12 | 110 => some 10 | 114 => some 13 | 116 => some 9
            | _ => none
          match simple with
          | some v => go fuel (acc ++ [v])
          | none =>
            if e = 117 then
              let c ← unicodeEscape
              go fuel (acc ++ Utf8.encodeChar c)
            else fail "invalid escape"
      | some b =>
        if b.toNat < 0x20 then fail "control character (\\u0000-\\u001F) found while parsing a string"
        else go fuel (acc ++ [b.toNat])
  let bytes ← go ((← get).remaining + 1) []
  pure (String.ofList (Utf8.decodeLossy bytes))

/-- A number as written: its sign, the exact value of its integer digits, the decimal kept the
quick way, and whether it has a fraction or an exponent. -/
structure NumberParts where
  positive : Bool
  whole : Nat
  scaled : Numeral.ScaledDecimal
  floating : Bool := false
  deriving Repr, Inhabited

/-- A number as a typed reader sees it: unsigned, negative, or floating. -/
inductive Number
  | unsigned (n : Nat)
  | negative (n : Int)
  | floating (x : Float)
  deriving Repr, Inhabited

/-- Whether a byte is a decimal digit. -/
def isDigit (b : UInt8) : Bool := 48 ≤ b.toNat && b.toNat ≤ 57

/-- Read a run of decimal digits. -/
def digitRun : Reader (List Nat) := do
  let rec go : Nat → List Nat → Reader (List Nat)
    | 0, acc => pure acc.reverse
    | fuel + 1, acc => do
      match ← peek with
      | some b => if isDigit b then bump *> go fuel ((b.toNat - 48) :: acc) else pure acc.reverse
      | none => pure acc.reverse
  go ((← get).remaining + 1) []

/-- Whether appending a digit to an exponent would overflow 32 bits. -/
def exponentOverflows (e d : Nat) : Bool := e ≥ 214748364 && (e > 214748364 || d > 7)

/-- Read the digits of an exponent after its first: its value, or none when it overflows 32
bits, the overflowing digit being the last one used. -/
def exponentDigits (first : Nat) : Reader (Option Nat) := do
  let rec go : Nat → Nat → Reader (Option Nat)
    | 0, e => pure (some e)
    | fuel + 1, e => do
      match ← peek with
      | some b =>
        if isDigit b then
          bump
          if exponentOverflows e (b.toNat - 48) then pure none else go fuel (10 * e + (b.toNat - 48))
        else pure (some e)
      | none => pure (some e)
  go ((← get).remaining + 1) first

/-- Read the fraction and exponent after the integer digits of a number. -/
def numberTail (positive : Bool) (first : Nat) (rest : List Nat) : Reader NumberParts := do
  let whole := rest.foldl (fun v d => 10 * v + d) first
  let mut parts : NumberParts := { positive, whole, scaled := .ofDigits first rest [] }
  if (← peek) == some 46 then
    bump
    let fraction ← digitRun
    if fraction.isEmpty then
      match ← peek with
      | some _ => fail "invalid number"
      | none => fail "EOF while parsing a value"
    parts := { parts with scaled := .ofDigits first rest fraction, floating := true }
  let e ← peek
  if e == some 101 || e == some 69 then
    bump
    let up ← match ← peek with
      | some 45 => bump; pure false
      | some 43 => bump; pure true
      | _ => pure true
    let lead ← match ← next with
      | none => fail "EOF while parsing a value"
      | some b => if isDigit b then pure (b.toNat - 48) else fail "invalid number"
    match ← exponentDigits lead with
    | some v =>
      parts := { parts with scaled := parts.scaled.shift (if up then (v : Int) else -(v : Int)),
                            floating := true }
    | none =>
      if parts.scaled.significand ≠ 0 && up then fail "number out of range"
      let _ ← digitRun
      parts := { parts with scaled := ⟨0, 0⟩, floating := true }
  pure parts

/-- Read the parts of a number whose sign, if any, was used. -/
def numberParts (positive : Bool) : Reader NumberParts := do
  match ← next with
  | none => fail "EOF while parsing a value"
  | some 48 =>
    match ← peek with
    | some b => if isDigit b then fail "invalid number" else numberTail positive 0 []
    | none => numberTail positive 0 []
  | some b =>
    if 49 ≤ b.toNat && b.toNat ≤ 57 then numberTail positive (b.toNat - 48) (← digitRun)
    else fail "invalid number"

/-- The double of a number read the quick way, failing when it is out of range. -/
def NumberParts.toFloat (p : NumberParts) : Reader Float :=
  match p.scaled.toFloat? with
  | some x => pure (if p.positive then x else Numeral.flipSign x)
  | none => fail "number out of range"

/-- Read a number whose sign, if any, was used, as a typed reader sees it: integers that fit
64 bits stay integers, other numbers are doubles, and a double too large fails. -/
def number (positive : Bool) : Reader Number := do
  let p ← numberParts positive
  if p.floating || p.whole ≥ Nat.pow 2 64 then pure (.floating (← p.toFloat))
  else if positive then pure (.unsigned p.whole)
  else if p.whole = 0 || p.whole > Nat.pow 2 63 then pure (.floating (← p.toFloat))
  else pure (.negative (-(p.whole : Int)))

/-- Close a list after its items: the closing bracket, or the error a reader meets there. -/
def endList : Reader Unit := do
  match ← skipBlank with
  | some 93 => bump
  | some 44 =>
    bump
    match ← skipBlank with
    | some 93 => fail "trailing comma"
    | _ => fail "trailing characters"
  | some _ => fail "trailing characters"
  | none => fail "EOF while parsing a list"

/-- Close an object after its members. -/
def endObject : Reader Unit := do
  match ← skipBlank with
  | some 125 => bump
  | some 44 => fail "trailing comma"
  | some _ => fail "trailing characters"
  | none => fail "EOF while parsing an object"

/-- Read the colon after a key. -/
def colon : Reader Unit := do
  match ← skipBlank with
  | some 58 => bump
  | some _ => fail "expected `:`"
  | none => fail "EOF while parsing an object"

/-- Look at the start of the next item of a list: none at its end. The first item needs no
comma; every later one does. -/
def nextItem (first : Bool) : Reader (Option UInt8) := do
  match ← skipBlank with
  | some 93 => pure none
  | some 44 =>
    if first then pure (some 44)
    else
      bump
      match ← skipBlank with
      | some 93 => fail "trailing comma"
      | some b => pure (some b)
      | none => fail "EOF while parsing a value"
  | some b => if first then pure (some b) else fail "expected `,` or `]`"
  | none => fail "EOF while parsing a list"

/-- Read the next key of an object: none at its end. -/
def nextKey (first : Bool) : Reader (Option String) := do
  let start ← match ← skipBlank with
    | some 125 => return none
    | some 44 =>
      if first then pure (some 44)
      else
        bump
        skipBlank
    | some b => if first then pure (some b) else fail "expected `,` or `\x7d`"
    | none => fail "EOF while parsing an object"
  match start with
  | some 34 => bump; pure (some (← stringBody))
  | some 125 => fail "trailing comma"
  | some _ => fail "key must be a string"
  | none => fail "EOF while parsing a value"

/-- The document of a number: an integer, every digit kept, when written without fraction or
exponent, and otherwise the double read the quick way. -/
def exactNumber (p : NumberParts) : Reader Json :=
  if p.floating then do pure (.float (← p.toFloat))
  else pure (.int (if p.positive then p.whole else -(p.whole : Int)))

mutual
/-- Read any value into a document; integers keep every digit. -/
def value : Nat → Reader Json
  | 0 => fail "recursion limit exceeded"
  | fuel + 1 => do
    match ← skipBlank with
    | none => fail "EOF while parsing a value"
    | some 110 => bump; literal "ull"; pure .null
    | some 116 => bump; literal "rue"; pure (.bool true)
    | some 102 => bump; literal "alse"; pure (.bool false)
    | some 34 => bump; pure (.str (← stringBody))
    | some 45 => bump; exactNumber (← numberParts false)
    | some 91 =>
      bump
      let xs ← items fuel true []
      endList
      pure (.arr xs)
    | some 123 =>
      bump
      let ms ← members fuel true []
      endObject
      pure (.obj ms)
    | some b =>
      if 48 ≤ b.toNat && b.toNat ≤ 57 then exactNumber (← numberParts true)
      else fail "expected value"

/-- Read the items of a list after its opening bracket. -/
def items : Nat → Bool → List Json → Reader (List Json)
  | 0, _, acc => pure acc
  | fuel + 1, first, acc => do
    match ← nextItem first with
    | none => pure acc
    | some _ => items fuel false (acc ++ [← value fuel])

/-- Read the members of an object after its opening brace. -/
def members : Nat → Bool → List (String × Json) → Reader (List (String × Json))
  | 0, _, acc => pure acc
  | fuel + 1, first, acc => do
    match ← nextKey first with
    | none => pure acc
    | some key =>
      colon
      members fuel false (acc ++ [(key, ← value fuel)])
end

end Reader

/-- Read a whole text as one JSON document; only blanks may follow it. -/
def Json.parse (text : String) : Except ReadError Json :=
  let run : Reader Json := do
    let v ← Reader.value (2 * (← get).remaining + 8)
    match ← Reader.skipBlank with
    | some _ => Reader.fail "trailing characters"
    | none => pure v
  (run.run (Cursor.ofString text)).map Prod.fst

end TagAtlas
