import MarkdownHighlight.Text.Digits

/-!
Escaping for markup. Angle brackets are always replaced. An ampersand is
replaced unless it begins an entity reference, so escaped text is not escaped
again.
-/

namespace MarkdownHighlight.Markup

/-- A run of at least one and at most `limit` of the given characters, then a
semicolon. -/
def closedRun (allowed : Char → Bool) (limit : Nat) (rest : Text) : Bool :=
  let run := rest.takeWhile allowed
  1 ≤ run.length && run.length ≤ limit && (rest.dropWhile allowed).head? == some ';'

/-- Whether the text after an ampersand makes it an entity reference: a
hexadecimal or decimal code, or a name that starts with a letter. -/
def startsEntity : Text → Bool
  | '#' :: 'x' :: rest => closedRun Text.isHexDigit 6 rest
  | '#' :: 'X' :: rest => closedRun Text.isHexDigit 6 rest
  | '#' :: rest => closedRun Char.isDigit 7 rest
  | c :: rest => c.isAlpha && closedRun Char.isAlphanum 32 (c :: rest)
  | [] => false

/-- The escaped form of a character before the given text. -/
def escapeChar (c : Char) (rest : Text) : Text :=
  if c = '<' then "&lt;".toList
  else if c = '>' then "&gt;".toList
  else if c = '&' && !startsEntity rest then "&amp;".toList
  else [c]

def escape : Text → Text
  | [] => []
  | c :: rest => escapeChar c rest ++ escape rest

end MarkdownHighlight.Markup
