import MarkdownHighlight.Token.Basic

/-!
What can go wrong, as causes, with the wording of each in one place.
-/

namespace MarkdownHighlight

/-- Why the groups of a match do not make up a token. -/
inductive Mismatch where
  | missingGroup (index : Nat)
  | noDelimiter
  | noContent
  | noTarget
  | misordered (span : Span)
  | wrongType (produced : TokenType)
  | other (reason : String)
  deriving DecidableEq, Repr

namespace Mismatch

def message : Mismatch → String
  | .missingGroup index => s!"missing capture group {index}"
  | .noDelimiter => "no delimiter alternative matched"
  | .noContent => "no content alternative matched"
  | .noTarget => "neither url nor reference matched"
  | .misordered span => s!"capture groups out of order in {span.start}..{span.stop}"
  | .wrongType produced => s!"extractor produced a {produced.name} token"
  | .other reason => reason

end Mismatch

inductive HighlightError where
  | io
  | pattern (name : String)
  | extract (name : String) (cause : Mismatch)
  | invalidViewport (first last : UInt64)
  | destroyed
  | panicked (reason : String)
  | configParse
  | configWrite
  deriving DecidableEq, Repr

namespace HighlightError

def message : HighlightError → String
  | .io => "I/O error"
  | .pattern name => s!"Invalid pattern `{name}`"
  | .extract name cause =>
      s!"Pattern `{name}` produced an unexpected match: {cause.message}"
  | .invalidViewport first last =>
      s!"Invalid viewport: first visible line {first} is after last visible line {last}"
  | .destroyed => "Engine has been destroyed"
  | .panicked reason => s!"Highlight pass panicked: {reason}"
  | .configParse => "Config parse error"
  | .configWrite => "Config write error"

end HighlightError

end MarkdownHighlight
