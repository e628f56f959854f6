/-! Blank characters: the White_Space property of the Unicode character database, and trimming
by it. Core's `Char.isWhitespace` knows ASCII only; this class also holds the no-break space,
the ideographic space and the other separators. -/
namespace TagAtlas.Text

/-- The code points with the White_Space property. -/
def blankCodes : List Nat :=
  [0x9, 0xA, 0xB, 0xC, 0xD, 0x20, 0x85, 0xA0, 0x1680, 0x2000, 0x2001, 0x2002, 0x2003, 0x2004,
    0x2005, 0x2006, 0x2007, 0x2008, 0x2009, 0x200A, 0x2028, 0x2029, 0x202F, 0x205F, 0x3000]

/-- Whether a character is blank. -/
def isBlank (c : Char) : Bool := blankCodes.contains c.toNat

theorem isBlank_of_isWhitespace {c : Char} (h : c.isWhitespace = true) : isBlank c = true := by
  simp only [Char.isWhitespace, Bool.or_eq_true, decide_eq_true_eq] at h
  rcases h with ((h | h) | h) | h <;> simp [isBlank, blankCodes, h]

/-- The text without blank characters at either end. -/
def trim (s : String) : String :=
  String.ofList ((s.toList.dropWhile isBlank).reverse.dropWhile isBlank).reverse

/-- The text without blank characters at its start. -/
def trimStart (s : String) : String := String.ofList (s.toList.dropWhile isBlank)

/-- The text without blank characters at its end. -/
def trimEnd (s : String) : String :=
  String.ofList (s.toList.reverse.dropWhile isBlank).reverse

/-- Whether the text has no character other than blanks. -/
def isBlankText (s : String) : Bool := s.toList.all isBlank

example : trim "  mania　" = "mania" := by decide

end TagAtlas.Text
