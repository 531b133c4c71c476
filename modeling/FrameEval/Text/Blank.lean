/-!
# White space around a line

The characters of the Unicode property White_Space, and the removal of those at both ends.
-/

namespace FrameEval.Text

/-- Whether a character is white space. -/
def isBlank (letter : Char) : Bool :=
  let code := letter.toNat
  (9 ≤ code && code ≤ 13) || code = 0x20 || code = 0x85 || code = 0xa0 || code = 0x1680 ||
    (0x2000 ≤ code && code ≤ 0x200a) || code = 0x2028 || code = 0x2029 || code = 0x202f ||
    code = 0x205f || code = 0x3000

/-- The characters between the first and the last that are not white space. -/
def trimBlanks (letters : List Char) : List Char :=
  ((letters.dropWhile isBlank).reverse.dropWhile isBlank).reverse

end FrameEval.Text
