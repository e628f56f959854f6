import TagAtlas.Decimal.Shortest
/-! Writing a double as text from its shortest digits. Three styles are used: the data style,
positional for point positions from -4 to 16 with a ".0" on whole numbers and an exponent
("1e20", "3.5e-7") elsewhere; the mention style, the data style with a plus sign on positive
exponents ("1e+20"); and the message style, always positional with no ".0". -/
namespace TagAtlas.Decimal

/-- How a double is laid out once its digits are known. -/
structure Style where
  /-- Point positions `p` with `lowest < p ≤ highest` are written positionally. -/
  lowest : Int
  highest : Int
  /-- Whether a whole number keeps a ".0". -/
  pointZero : Bool
  /-- What is written before a positive exponent. -/
  plus : String
  nan : String
  infinity : String

/-- Data style: positional for point positions in `(-5, 16]`, else an exponent. -/
def Style.data : Style := ⟨-5, 16, true, "", "NaN", "inf"⟩

/-- Mention style: the data style, with a plus sign on a positive exponent. -/
def Style.mention : Style := ⟨-5, 16, true, "+", "NaN", "inf"⟩

/-- Message style: always positional, whole numbers without ".0". -/
def Style.message : Style := ⟨-100000, 100000, false, "", "NaN", "inf"⟩

/-- `n` zeros. -/
def zeros (n : Nat) : String := String.ofList (List.replicate n '0')

/-- The text of positive digits `d · 10^k` in a style. -/
def layout (st : Style) (d : Digits) : String :=
  let s := toString d.digits
  let len : Int := s.length
  let k := d.exponent
  let point := len + k
  let tail := if st.pointZero then ".0" else ""
  if st.lowest < point ∧ point ≤ st.highest then
    if k ≥ 0 then s ++ zeros k.toNat ++ tail
    else if point > 0 then
      String.ofList (s.toList.take point.toNat) ++ "." ++ String.ofList (s.toList.drop point.toNat)
    else "0." ++ zeros (-point).toNat ++ s
  else
    let e := (if point > 1 then st.plus else "") ++ toString (point - 1)
    match s.toList with
    | [c] => String.singleton c ++ "e" ++ e
    | c :: rest => String.singleton c ++ "." ++ String.ofList rest ++ "e" ++ e
    | [] => "0e" ++ e

/-- The text of a double in a style. -/
def render (st : Style) (x : Float) : String :=
  if x.isNaN then st.nan
  else
    let b := Binary.ofFloat x
    let sign := if b.negative then "-" else ""
    if x.isInf then sign ++ st.infinity
    else if b.mantissa = 0 then sign ++ "0" ++ (if st.pointZero then ".0" else "")
    else sign ++ layout st (shortestOf b)

/-- The data-style text of a double. -/
def dataText (x : Float) : String := render Style.data x

/-- The mention-style text of a double. -/
def mentionText (x : Float) : String := render Style.mention x

/-- The message-style text of a double. -/
def messageText (x : Float) : String := render Style.message x

end TagAtlas.Decimal
