import MarkdownHighlight.Grammar.Extraction
import MarkdownHighlight.Regex.Automaton
import MarkdownHighlight.Regex.Source.Expression

/-!
A pattern pairs a regular expression with the extraction that makes tokens of
its matches. An expression that is only known by its source comes with its
automaton, so that no text makes the search long. The extraction may make
tokens of another type than the pattern declares; that is reported, not trusted.
-/

namespace MarkdownHighlight

structure Pattern where
  name : String
  type : TokenType
  /-- The regular expression as it is written. -/
  source : String
  regex : Regex
  automaton? : Option Automaton := none
  extraction : Extraction

namespace Pattern

/-- A pattern whose expression is given by its source only. -/
def compile (name : String) (type : TokenType) (source : String) (extraction : Extraction) :
    Except HighlightError Pattern :=
  match Regex.ofSource? source.toList with
  | some regex =>
      .ok { name, type, source, regex, automaton? := some (.ofRegex regex), extraction }
  | none => .error (.pattern name)

/-- The leftmost match at or after the cursor. -/
def search? (p : Pattern) (c : Cursor) : Option Match :=
  match p.automaton? with
  | some automaton => automaton.search? c
  | none => p.regex.search? c

/-- The first match at or after a byte offset; none past the end of the text. -/
def matchFrom? (p : Pattern) (text : Text) (start : Nat) : Option Match :=
  if text.size < start then none else p.search? ((Cursor.atStart text).seek start)

def extract (p : Pattern) (c : Captures) : Except HighlightError Token := do
  let token ← p.extraction c
  if token.type = p.type then return token
  else throw (.extract p.name (.wrongType token.type))

end Pattern

end MarkdownHighlight
