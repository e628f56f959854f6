/-! Reading a decimal text as a double. The grammar is an optional sign, then either "inf",
"infinity" or "nan" in any letter case, or digits with an optional point (at least one digit
on one side) and an optional exponent mark with an optional sign and at least one digit.
Nothing else may stand in the text: no blanks, no underscores. The value is the double
nearest the decimal, ties to even; a value too large becomes infinite. -/
namespace TagAtlas.Numeral

/-- Why a text is not a decimal number. -/
inductive RealError
  | empty
  | invalid
  deriving DecidableEq, Repr

/-- The standard wording of each error. -/
def RealError.message : RealError → String
  | .empty => "cannot parse float from empty string"
  | .invalid => "invalid float literal"

/-- The quiet not-a-number with a clear sign bit. -/
def quietNaN : Float := Float.ofBits 0x7FF8000000000000

/-- Positive infinity. -/
def infinity : Float := Float.ofBits 0x7FF0000000000000

/-- The double with the other sign bit; unlike arithmetic negation, this also flips the sign of
a not-a-number. -/
def flipSign (x : Float) : Float := Float.ofBits (x.toBits ^^^ 0x8000000000000000)

/-- The digits at the front of a list and the rest. -/
def spanDigits (cs : List Char) : List Char × List Char := (cs.takeWhile Char.isDigit, cs.dropWhile Char.isDigit)

/-- The value of a list of digits. -/
def digitsValue (ds : List Char) : Nat := ds.foldl (fun acc c => acc * 10 + (c.toNat - '0'.toNat)) 0

/-- The double nearest `mantissa · 10^exponent`. Exponents far outside the range of doubles
are settled without computing the power. -/
def ofDecimal (mantissa : Nat) (exponent : Int) : Float :=
  if mantissa = 0 then 0.0
  else
    let magnitude := exponent + (Nat.toDigits 10 mantissa).length
    if magnitude > 311 then infinity
    else if magnitude < -330 then 0.0
    else if exponent ≥ 0 then Float.ofScientific mantissa false exponent.toNat
    else Float.ofScientific mantissa true (-exponent).toNat

/-- The unsigned value of a decimal text: digits, point, fraction, exponent. -/
def readUnsignedDecimal (cs : List Char) : Option Float :=
  let (intDigits, rest) := spanDigits cs
  let (fracDigits, rest) :=
    match rest with
    | '.' :: after => spanDigits after
    | _ => ([], rest)
  if intDigits.isEmpty && fracDigits.isEmpty then none
  else
    let mantissa := digitsValue (intDigits ++ fracDigits)
    let shift : Int := -(fracDigits.length : Int)
    match rest with
    | [] => some (ofDecimal mantissa shift)
    | e :: after =>
      if e = 'e' ∨ e = 'E' then
        let (negExp, digits) :=
          match after with
          | '+' :: ds => (false, ds)
          | '-' :: ds => (true, ds)
          | ds => (false, ds)
        if digits.isEmpty || !digits.all Char.isDigit then none
        else
          let ev : Int := digitsValue digits
          some (ofDecimal mantissa (shift + if negExp then -ev else ev))
      else none

/-- The special words, compared without regard to ASCII letter case. -/
def readSpecial (cs : List Char) : Option Float :=
  let low := String.ofList (cs.map Char.toLower)
  if low = "inf" || low = "infinity" then some infinity
  else if low = "nan" then some quietNaN
  else none

/-- Read a double from a text. -/
def readReal (s : String) : Except RealError Float :=
  match s.toList with
  | [] => .error .empty
  | cs =>
    let (negative, body) :=
      match cs with
      | '+' :: rest => (false, rest)
      | '-' :: rest => (true, rest)
      | _ => (false, cs)
    if body.isEmpty then .error .invalid
    else
      match readUnsignedDecimal body <|> readSpecial body with
      | some v => .ok (if negative then flipSign v else v)
      | none => .error .invalid

end TagAtlas.Numeral
