/-!
# Blank text

White space by its Unicode property, with the four information separators counted in.
-/

namespace LspWire.Text

/-- The white-space characters. -/
def isBlank (c : Char) : Bool :=
  let n := c.toNat
  (0x09 ≤ n && n ≤ 0x0d) || (0x1c ≤ n && n ≤ 0x20) || n == 0x85 || n == 0xa0 || n == 0x1680 ||
    (0x2000 ≤ n && n ≤ 0x200a) || n == 0x2028 || n == 0x2029 || n == 0x202f || n == 0x205f || n == 0x3000

/-- Whether a line holds nothing but white space. -/
def isBlankLine (s : String) : Bool :=
  s.toList.all isBlank

end LspWire.Text
