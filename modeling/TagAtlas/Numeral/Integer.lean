/-! Reading a decimal integer of a bounded type. The text is an optional sign and ASCII digits
only; a minus sign is a digit error for unsigned types. Digits are read left to right, and
the first character that is not a digit, or the first digit that leaves the range, decides
the error. -/
namespace TagAtlas.Numeral

/-- Why a text is not an integer of the type. -/
inductive IntError
  | empty
  | invalidDigit
  | tooLarge
  | tooSmall
  deriving DecidableEq, Repr

/-- The standard wording of each error. -/
def IntError.message : IntError → String
  | .empty => "cannot parse integer from empty string"
  | .invalidDigit => "invalid digit found in string"
  | .tooLarge => "number too large to fit in target type"
  | .tooSmall => "number too small to fit in target type"

/-- An integer type: whether it has negative values, and its least and greatest value. -/
structure IntRange where
  signed : Bool
  least : Int
  greatest : Int

/-- 64-bit signed integers. -/
def IntRange.i64 : IntRange := ⟨true, -Int.pow 2 63, Int.pow 2 63 - 1⟩
/-- 32-bit unsigned integers. -/
def IntRange.u32 : IntRange := ⟨false, 0, Int.pow 2 32 - 1⟩
/-- 64-bit unsigned integers. -/
def IntRange.u64 : IntRange := ⟨false, 0, Int.pow 2 64 - 1⟩

/-- Accumulate the digits `cs` onto `acc`, adding them for a positive number and
subtracting them for a negative one. -/
def accumulate (r : IntRange) (positive : Bool) (acc : Int) : List Char → Except IntError Int
  | [] => .ok acc
  | c :: rest =>
    if c.isDigit then
      let d : Int := c.toNat - '0'.toNat
      let next := if positive then acc * 10 + d else acc * 10 - d
      if positive && next > r.greatest then .error .tooLarge
      else if !positive && next < r.least then .error .tooSmall
      else accumulate r positive next rest
    else .error .invalidDigit

/-- Read an integer of the range `r`. -/
def readInt (r : IntRange) (s : String) : Except IntError Int :=
  match s.toList with
  | [] => .error .empty
  | ['+'] | ['-'] => .error .invalidDigit
  | '+' :: rest => accumulate r true 0 rest
  | '-' :: rest => if r.signed then accumulate r false 0 rest else .error .invalidDigit
  | cs => accumulate r true 0 cs

example : readInt .i64 "+7" = .ok 7 := by rfl
example : readInt .u32 "-1" = .error .invalidDigit := by rfl
example : readInt .u32 "4294967296" = .error .tooLarge := by rfl

end TagAtlas.Numeral
