import SuffixPattern.Text

/-!
# SuffixPattern.Unicode.Blank

White space and control characters, and trimming.
-/

namespace SuffixPattern
namespace Unicode

/-- White space: the ASCII blanks, the next-line control, and the spaces and separators beyond. -/
def isBlank (c : Char) : Bool :=
  let n := c.toNat
  (9 ≤ n && n ≤ 13) || n == 0x20 || n == 0x85 || n == 0xA0 || n == 0x1680 ||
    (0x2000 ≤ n && n ≤ 0x200A) || n == 0x2028 || n == 0x2029 || n == 0x202F || n == 0x205F ||
    n == 0x3000

/-- Control characters: below the space, and from the delete character to the end of its block. -/
def isControl (c : Char) : Bool :=
  let n := c.toNat
  n ≤ 0x1F || (0x7F ≤ n && n ≤ 0x9F)

end Unicode

namespace Text

/-- The text without white space at both ends. -/
def trimBlank (t : Text) : Text :=
  t.trim Unicode.isBlank

end Text
end SuffixPattern
