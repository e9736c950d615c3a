import MarkdownHighlight.Text.CodeRange

/-!
White space of every script, with the line and paragraph separators. Trimming
of command line values and the blank class of the grammar share this set.
-/

namespace MarkdownHighlight.Text

def blankRanges : List (Nat × Nat) :=
  [(0x85, 0x85), (0xa0, 0xa0), (0x1680, 0x1680), (0x2000, 0x200a), (0x2028, 0x2029),
   (0x202f, 0x202f), (0x205f, 0x205f), (0x3000, 0x3000)]

/-- A white space character, vertical ones included. -/
def isBlank (c : Char) : Bool :=
  if c.toNat < 0x80 then c == ' ' || (0x09 ≤ c.toNat && c.toNat ≤ 0x0d)
  else withinRanges blankRanges c.toNat

end MarkdownHighlight.Text
