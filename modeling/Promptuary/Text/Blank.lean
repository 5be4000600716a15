/-!
Blank characters: spaces of every width, tabs, line ends and the information separators. The
zero-width space is not one. White space is the same without the information separators.
-/

namespace Promptuary.Text

/-- Whether a character is blank. -/
def isBlank (c : Char) : Bool :=
  let n := c.toNat
  (9 ≤ n && n ≤ 13) || (28 ≤ n && n ≤ 32) || n == 133 || n == 160 || n == 5760 ||
    (8192 ≤ n && n ≤ 8202) || n == 8232 || n == 8233 || n == 8239 || n == 8287 || n == 12288

/-- Whether a character is white space: a blank that is no information separator. -/
def isWhite (c : Char) : Bool := isBlank c && !(28 ≤ c.toNat && c.toNat < 32)

/-- A text without the characters of a class at its two ends. -/
def trimBy (p : Char → Bool) (cs : List Char) : List Char :=
  ((cs.dropWhile p).reverse.dropWhile p).reverse

/-- A text without the blanks at its two ends. -/
def trimChars (cs : List Char) : List Char := trimBy isBlank cs

/-- Whether a text holds nothing but blanks. -/
def isAllBlank (s : String) : Bool := s.toList.all isBlank

end Promptuary.Text
