import MarkdownHighlight.Text.Reader

/-!
Blanks, line ends and comments of a TOML document. A line ends with a newline
or a carriage return and a newline; a carriage return alone is not allowed
anywhere.
-/

namespace MarkdownHighlight.Toml

open Reader

def isBlankChar (c : Char) : Bool := c == ' ' || c == '\t'

/-- Characters that may stand in comments and strings: tabs, and everything
that is no control character. -/
def isPrintable (c : Char) : Bool := c == '\t' || (0x20 ≤ c.toNat && c.toNat != 0x7f)

def blanks : Reader Unit := do
  let _ ← run isBlankChar

def lineBreak : Reader Unit := literal ['\n'] <|> literal ['\r', '\n']

def lineEnd : Reader Unit := lineBreak <|> finish

def comment : Reader Unit := do
  char '#'
  let _ ← run isPrintable

/-- What may follow a value or a header on its line. -/
def restOfLine : Reader Unit := do
  blanks
  let _ ← optional comment
  lineEnd

/-- Blanks, comments and line breaks, as they may stand between array items. -/
def filler : Reader Unit := do
  let _ ← many ((do let _ ← run1 isBlankChar) <|> comment <|> lineBreak)

/-- Blanks and line breaks, the first of them a line break. -/
def lineBreaks : Reader Unit := do
  lineBreak
  let _ ← many ((do let _ ← run1 isBlankChar) <|> lineBreak)

end MarkdownHighlight.Toml
