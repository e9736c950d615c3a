import MarkdownHighlight.Text.Digits
import MarkdownHighlight.Toml.Layout

/-!
The four kinds of strings. Basic strings have escapes, literal ones have none;
the multi-line forms are delimited by three quotes, hold up to two quotes in a
row, may end with up to two more, and lose a line break right after the opening.
-/

namespace MarkdownHighlight.Toml

open Reader
open Text (isHexDigit numberOf)

/-- A character by its code point, which must not be a surrogate. -/
def codePoint (digits : Nat) : Reader Char := do
  let code := numberOf 16 (← exactly digits isHexDigit)
  if code.isValidChar then return Char.ofNat code else failure

/-- What follows a backslash. -/
def escapeCode : Reader Char := do
  match ← any with
  | 'b' => return '\x08'
  | 't' => return '\t'
  | 'n' => return '\n'
  | 'f' => return '\x0c'
  | 'r' => return '\r'
  | '"' => return '"'
  | '\\' => return '\\'
  | 'u' => codePoint 4
  | 'U' => codePoint 8
  | _ => failure

def escaped : Reader Char := do
  char '\\'
  escapeCode

def basicChar : Reader Char :=
  satisfy (fun c => isPrintable c && c != '"' && c != '\\') <|> escaped

def basicString : Reader Text := do
  char '"'
  let text ← many basicChar
  char '"'
  return text

def literalString : Reader Text := do
  char '\''
  let text ← run fun c => isPrintable c && c != '\''
  char '\''
  return text

/-- A backslash at the end of a line swallows the blanks and line breaks after
it. -/
def continuation : Reader Text := do
  char '\\'
  blanks
  lineBreaks
  return []

/-- Quotes that do not close a multi-line string: one or two, and no third. -/
def innerQuotes (quote : Char) : Reader Text := do
  let quotes ← run1 (· == quote)
  if quotes.length ≤ 2 then return quotes else failure

/-- The closing quotes; beyond the three, up to two belong to the string. -/
def closingQuotes (quote : Char) : Reader Text := do
  let quotes ← run1 (· == quote)
  if 3 ≤ quotes.length ∧ quotes.length ≤ 5 then return quotes.drop 3 else failure

def multiLine (quote : Char) (piece : Reader Text) : Reader Text := do
  literal [quote, quote, quote]
  let _ ← optional lineBreak
  let pieces ← many (piece <|> innerQuotes quote)
  let last ← closingQuotes quote
  return pieces.flatten ++ last

def multiLineBasicString : Reader Text :=
  multiLine '"' (run1 (fun c => isPrintable c && c != '"' && c != '\\') <|> continuation
    <|> (do return [← escaped]) <|> (do lineBreak; return ['\n']))

def multiLineLiteralString : Reader Text :=
  multiLine '\'' (run1 (fun c => isPrintable c && c != '\'') <|> (do lineBreak; return ['\n']))

def string : Reader Text :=
  multiLineBasicString <|> basicString <|> multiLineLiteralString <|> literalString

end MarkdownHighlight.Toml
