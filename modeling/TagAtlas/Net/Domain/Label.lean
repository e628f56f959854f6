import TagAtlas.Net.Domain.Mapping
import TagAtlas.Text.BidiTable
import TagAtlas.Text.JoinTable
/-! The validity rules for one mapped label of a domain name. An empty label is valid. Any
other label may not begin with a combining mark, holds only code points that mapping keeps,
places its zero-width joiners where RFC 5892 (appendix A) allows them, and, in a domain that
holds right-to-left text, follows the six conditions of RFC 5893 (section 2). A label read from
Punycode may moreover not begin with `xn--`. -/
namespace TagAtlas.Domain

open Text

/-- The zero-width non-joiner. -/
def nonJoiner : Char := '\u200C'

/-- The zero-width joiner. -/
def joiner : Char := '\u200D'

/-- Whether a label begins with `xn--`, the mark of a label written in Punycode. -/
def hasAcePrefix (label : List Char) : Bool := label.take 4 == ['x', 'n', '-', '-']

/-- Whether the code point just before a joiner is a virama; `before` lists the code points
before it, nearest first. -/
def afterVirama (before : List Char) : Bool := (before.head?.map isVirama).getD false

/-- Whether a non-joiner stands between a left- or dual-joining code point and a right- or
dual-joining one, transparent code points aside. -/
def joinsAround (before after : List Char) : Bool :=
  let shows (c : Char) := joiningType c != .transparent
  let left := (before.find? shows).map joiningType
  let right := (after.find? shows).map joiningType
  (left == some .left || left == some .dual) && (right == some .right || right == some .dual)

/-- Whether each joiner of a label stands where it may: a joiner only after a virama, a
non-joiner after a virama or between two joining code points. `before` lists the code points
already passed, nearest first. -/
def joinersFit (before : List Char) : List Char → Bool
  | [] => true
  | c :: after =>
    let fits :=
      if c == nonJoiner then afterVirama before || joinsAround before after
      else if c == joiner then afterVirama before
      else true
    fits && joinersFit (c :: before) after

/-- Whether a code point makes a domain hold right-to-left text. -/
def isRightToLeft (c : Char) : Bool :=
  match bidiClass c with
  | .rightToLeft | .arabicLetter | .arabicNumber => true
  | _ => false

/-- The classes a left-to-right label may hold. -/
def leftToRightAllows : BidiClass → Bool
  | .leftToRight | .europeanNumber | .europeanSeparator | .commonSeparator | .europeanTerminator
  | .otherNeutral | .boundaryNeutral | .nonspacingMark => true
  | _ => false

/-- The classes a right-to-left label may hold. -/
def rightToLeftAllows : BidiClass → Bool
  | .rightToLeft | .arabicLetter | .arabicNumber | .europeanNumber | .europeanSeparator
  | .commonSeparator | .europeanTerminator | .otherNeutral | .boundaryNeutral
  | .nonspacingMark => true
  | _ => false

/-- The bidirectional rule for a label of a domain that holds right-to-left text: it begins
with a left-to-right or right-to-left letter and holds only the classes of its direction; it
ends, before trailing nonspacing marks, in a letter of its direction or a number (European only
when left-to-right); a right-to-left label does not mix European and Arabic numbers. -/
def bidiFits (label : List Char) : Bool :=
  let classes := label.map bidiClass
  let last := (classes.reverse.dropWhile (· == .nonspacingMark)).head?
  match classes with
  | [] => true
  | first :: _ =>
    if first == .leftToRight then
      classes.all leftToRightAllows && (last == some .leftToRight || last == some .europeanNumber)
    else if first == .rightToLeft || first == .arabicLetter then
      classes.all rightToLeftAllows &&
        (last == some .rightToLeft || last == some .arabicLetter ||
          last == some .europeanNumber || last == some .arabicNumber) &&
        !(classes.contains .europeanNumber && classes.contains .arabicNumber)
    else false

/-- Whether a mapped label is valid, in a domain that holds right-to-left text or not, and
read from Punycode or not. -/
def labelFits (rightToLeft fromPunycode : Bool) (label : List Char) : Bool :=
  match label with
  | [] => true
  | first :: _ =>
    !(fromPunycode && hasAcePrefix label) && !isMark first && label.all isValid &&
      joinersFit [] label && (!rightToLeft || bidiFits label)

example : labelFits false false "bücher".toList ∧ !labelFits false false "\u0301a".toList ∧
    labelFits true false "אב".toList ∧ !labelFits true false "1a".toList ∧
    !labelFits false false ['a', joiner] ∧ labelFits false false ['\u0915', '\u094D', joiner] := by
  decide +kernel

end TagAtlas.Domain
