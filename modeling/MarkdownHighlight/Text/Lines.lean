import MarkdownHighlight.Text.Basic

/-!
Lines are what stands between newlines; a text with `n` newlines has `n + 1`
lines, and joining the lines gives the text back.
-/

namespace MarkdownHighlight.Text

def newline : Char := '\n'

/-- Never empty: the empty text is one empty line. -/
def lines : Text → List Text
  | [] => [[]]
  | c :: rest =>
      if c = newline then [] :: lines rest
      else match lines rest with
        | [] => [[c]]
        | first :: others => (c :: first) :: others

def joinLines (ls : List Text) : Text := List.intercalate [newline] ls

end MarkdownHighlight.Text
