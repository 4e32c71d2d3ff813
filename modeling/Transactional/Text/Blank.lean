/-!
# Blank characters

The characters that count as white space wherever a reader is told to skip "any blank": a timestamp
is read with them allowed in front of every number.  The set is the White_Space property of the
character database, not the handful of blanks that JSON admits.
-/

namespace Transactional.Text

/-- **White space**, by the property of that name: the five ASCII controls from tab to carriage
return, the space, and the spaces and separators beyond ASCII. -/
def isBlank (c : Char) : Bool :=
  let n := c.toNat
  (0x09 ≤ n && n ≤ 0x0d) || n == 0x20 || n == 0x85 || n == 0xa0 || n == 0x1680
    || (0x2000 ≤ n && n ≤ 0x200a) || n == 0x2028 || n == 0x2029 || n == 0x202f || n == 0x205f
    || n == 0x3000

/-- The text from its first character that is not blank. -/
def dropBlanks (text : List Char) : List Char :=
  text.dropWhile isBlank

end Transactional.Text
