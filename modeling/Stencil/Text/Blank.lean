-- Blank characters. A blank is any character that Unicode calls white space, and the four
-- separators of ASCII; trimming cuts blanks off the ends of a text.

namespace Stencil.Text

/-- What Unicode calls white space: tabs and line ends, the space, and the spaces of other
scripts. -/
def isWhiteSpace (c : Char) : Bool :=
  let n := c.toNat
  (9 ≤ n && n ≤ 13) || n == 32 || n == 0x85 || n == 0xA0 || n == 0x1680 ||
    (0x2000 ≤ n && n ≤ 0x200A) || n == 0x2028 || n == 0x2029 || n == 0x202F || n == 0x205F ||
    n == 0x3000

/-- White space and the ASCII separators. -/
def isBlank (c : Char) : Bool := (28 ≤ c.toNat && c.toNat ≤ 31) || isWhiteSpace c

/-- The text without the characters of a class at its end. -/
def trimRightBy (p : Char → Bool) (cs : List Char) : List Char :=
  (cs.reverse.dropWhile p).reverse

/-- The text without the characters of a class at its two ends. -/
def trimBy (p : Char → Bool) (cs : List Char) : List Char := trimRightBy p (cs.dropWhile p)

/-- The text without the blanks at its end. -/
def trimRight (cs : List Char) : List Char := trimRightBy isBlank cs

/-- The text without the blanks at its two ends. -/
def trim (cs : List Char) : List Char := trimBy isBlank cs

/-- The `trim` of a string. -/
def trimmed (s : String) : String := String.ofList (trim s.toList)

/-- A text of blanks only, the empty one included. -/
def isBlankText (s : String) : Bool := s.toList.all isBlank

end Stencil.Text
