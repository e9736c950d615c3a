import MarkdownHighlight.Token.Basic

/-!
How parts look on a terminal. Styles are layered from the outside in:
attributes accumulate, and the innermost colour that is set wins.
-/

namespace MarkdownHighlight

inductive Color where
  | standard
  | red
  | green
  | yellow
  | blue
  | magenta
  | cyan
  | brightBlack
  | brightBlue
  deriving DecidableEq, Repr

structure Style where
  fg : Color := .standard
  bold : Bool := false
  italic : Bool := false
  underline : Bool := false
  strikethrough : Bool := false
  deriving DecidableEq, Repr

namespace Style

def plain : Style := {}

def isPlain (s : Style) : Bool := s == plain

/-- `inner` layered on top of `outer`. -/
def merge (outer inner : Style) : Style where
  fg := if inner.fg = .standard then outer.fg else inner.fg
  bold := outer.bold || inner.bold
  italic := outer.italic || inner.italic
  underline := outer.underline || inner.underline
  strikethrough := outer.strikethrough || inner.strikethrough

/-- The style of what a token is about. -/
def ofContent : TokenType → Style
  | .header => { fg := .magenta, bold := true }
  | .bold => { bold := true }
  | .italic => { italic := true }
  | .codeInline | .codeBlock => { fg := .green }
  | .link => { fg := .blue, underline := true }
  | .blockquote => { fg := .brightBlack, italic := true }
  | .strikethrough => { strikethrough := true }
  | .table => { fg := .cyan }
  | .list | .text => plain

def ofPart (type : TokenType) : Role → Style
  | .marker => { fg := .brightBlack }
  | .content => ofContent type
  | .metadata name =>
      if name = "url" ∨ name = "ref" then { fg := .brightBlue, underline := true }
      else { fg := .yellow }
  | .plain => plain

end Style

end MarkdownHighlight
