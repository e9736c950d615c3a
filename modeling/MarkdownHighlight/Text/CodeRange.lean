/-!
Sets of code points given by a table of inclusive ranges in increasing order.
-/

namespace MarkdownHighlight.Text

/-- Whether `code` lies in one of the ranges; the table is increasing, so the
search ends at the first range that starts later. -/
def withinRanges : List (Nat × Nat) → Nat → Bool
  | [], _ => false
  | (first, last) :: later, code =>
      if code < first then false
      else if code ≤ last then true
      else withinRanges later code

end MarkdownHighlight.Text
