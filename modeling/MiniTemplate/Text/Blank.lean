/-!
# Blank characters

The blanks are the characters with the Unicode property `White_Space`. The
zero-width characters U+200B and U+FEFF are not among them.
-/

namespace MiniTemplate.Text

/-- The Unicode property `White_Space`. -/
def isBlank (c : Char) : Bool :=
  let n := c.toNat
  (0x09 ≤ n && n ≤ 0x0D) || n == 0x20 || n == 0x85 || n == 0xA0 || n == 0x1680 ||
    (0x2000 ≤ n && n ≤ 0x200A) || n == 0x2028 || n == 0x2029 || n == 0x202F || n == 0x205F ||
    n == 0x3000

/-- A text without its leading blanks. -/
def trimStart (text : List Char) : List Char := text.dropWhile isBlank

/-- A text without the characters at its end that satisfy `p`. -/
def dropEndWhile (p : Char → Bool) (text : List Char) : List Char :=
  (text.reverse.dropWhile p).reverse

/-- A text without its trailing blanks. -/
def trimEnd (text : List Char) : List Char := dropEndWhile isBlank text

/-- A text without blanks at either end. -/
def trim (text : List Char) : List Char := trimEnd (trimStart text)

end MiniTemplate.Text
