import TagAtlas.Json.Reader
/-! Skipping a JSON value whose content is not wanted, checking only its form. Strings are
checked for their escapes and control characters but not for the surrogates their escapes
name; numbers are checked for their digits but not for their range. Nested lists and objects
are walked with an explicit stack of open brackets, so skipping needs no recursion.

The checks differ from those of reading in a few places: a number cut short (`-`, `1.`, `1e`)
is an invalid number even at the end of the text, and a comma before a closing bracket is met
as a missing value (in a list) or a key that is not a string (in an object). -/
namespace TagAtlas

namespace Reader

/-- Skip the rest of a string whose opening quote was used. -/
def skipString : Reader Unit := do
  let rec go : Nat → Reader Unit
    | 0 => pure ()
    | fuel + 1 => do
      match ← next with
      | none => fail "EOF while parsing a string"
      | some 34 => pure ()
      | some 92 =>
        match ← next with
        | none => fail "EOF while parsing a string"
        | some e =>
          if e = 34 || e = 92 || e = 47 || e = 98 || e = 102 || e = 110 || e = 114 || e = 116 then go fuel
          else if e = 117 then do let _ ← hexEscape; go fuel
          else fail "invalid escape"
      | some b =>
        if b.toNat < 0x20 then fail "control character (\\u0000-\\u001F) found while parsing a string"
        else go fuel
  go ((← get).remaining + 1)

/-- Skip the exponent of a number at its `e`. -/
def skipExponent : Reader Unit := do
  bump
  match ← peek with
  | some 43 | some 45 => bump
  | _ => pure ()
  match ← next with
  | some b => if isDigit b then do let _ ← digitRun; pure () else fail "invalid number"
  | none => fail "invalid number"

/-- Skip a number whose sign, if any, was used. -/
def skipNumber : Reader Unit := do
  match ← next with
  | some 48 =>
    match ← peek with
    | some b => if isDigit b then fail "invalid number"
    | none => pure ()
  | some b => if 49 ≤ b.toNat && b.toNat ≤ 57 then do let _ ← digitRun; pure () else fail "invalid number"
  | none => fail "invalid number"
  match ← peek with
  | some 46 =>
    bump
    if (← digitRun).isEmpty then fail "invalid number"
    match ← peek with
    | some 101 | some 69 => skipExponent
    | _ => pure ()
  | some 101 | some 69 => skipExponent
  | _ => pure ()

/-- Skip a scalar, or open a list or object: its bracket when one was opened. -/
def skipStart : Reader (Option UInt8) := do
  match ← skipBlank with
  | none => fail "EOF while parsing a value"
  | some 110 => bump; literal "ull"; pure none
  | some 116 => bump; literal "rue"; pure none
  | some 102 => bump; literal "alse"; pure none
  | some 45 => bump; skipNumber; pure none
  | some 34 => bump; skipString; pure none
  | some 91 => bump; pure (some 91)
  | some 123 => bump; pure (some 123)
  | some b => if isDigit b then do skipNumber; pure none else fail "expected value"

/-- After a value inside the bracket `frame`: close brackets while they come, the stack
holding the brackets around. Gives the bracket whose next item follows a comma, or none when
the outermost bracket closed. `afterItem` tells whether an item was just read, so that a
comma may follow. -/
def skipClosing : Nat → Bool → UInt8 → List UInt8 → Reader (Option (UInt8 × List UInt8))
  | 0, _, frame, stack => pure (some (frame, stack))
  | fuel + 1, afterItem, frame, stack => do
    match ← skipBlank with
    | some 44 =>
      if afterItem then do bump; pure (some (frame, stack))
      else pure (some (frame, stack))
    | some b =>
      if (b = 93 && frame = 91) || (b = 125 && frame = 123) then
        bump
        match stack with
        | outer :: rest => skipClosing fuel true outer rest
        | [] => pure none
      else if afterItem then
        fail (if frame = 91 then "expected `,` or `]`" else "expected `,` or `\x7d`")
      else pure (some (frame, stack))
    | none => fail (if frame = 91 then "EOF while parsing a list" else "EOF while parsing an object")

/-- Read the key and colon that open a member of an object. -/
def skipKey : Reader Unit := do
  match ← skipBlank with
  | some 34 => bump
  | some _ => fail "key must be a string"
  | none => fail "EOF while parsing a value"
  skipString
  match ← skipBlank with
  | some 58 => bump
  | some _ => fail "expected `:`"
  | none => fail "EOF while parsing an object"

/-- Skip one value, checking its form. -/
def skipValue : Reader Unit := do
  let rec go : Nat → List UInt8 → Reader Unit
    | 0, _ => pure ()
    | fuel + 1, stack => do
      let next ← match ← skipStart with
        | some frame => skipClosing ((← get).remaining + 1) false frame stack
        | none =>
          match stack with
          | frame :: rest => skipClosing ((← get).remaining + 1) true frame rest
          | [] => pure none
      match next with
      | none => pure ()
      | some (frame, rest) =>
        if frame = 123 then skipKey
        go fuel (frame :: rest)
  go ((← get).remaining + 1) []

end Reader

end TagAtlas
