import MarkdownHighlight.Markup.Escape
import MarkdownHighlight.Token.Tree

/-!
Markup of a tree. Each token is a span that holds one span for each part but
the plain ones; the content span holds the markup of the children. A text that
already carries this markup is left as it is.
-/

namespace MarkdownHighlight.Markup

/-- What marks a text as already rendered. -/
def renderedMarker : Text := "class=\"md-".toList

def isRendered (text : Text) : Bool := Text.occursIn renderedMarker text

def openTag (classes : String) : Text := ("<span class=\"" ++ classes ++ "\">").toList

def closeTag : Text := "</span>".toList

def tagged (classes : String) (inner : Text) : Text := openTag classes ++ inner ++ closeTag

/-- The class of a token, with a second class for the level where there is one. -/
def tokenClasses (kind : TokenKind) : String :=
  let base := "md-" ++ kind.type.className
  match kind.level? with
  | none => base
  | some level => base ++ " " ++ base ++ "-" ++ Nat.repr level

/-- The class of a part; plain parts have none. -/
def partClass? (type : TokenType) : Role → Option String
  | .marker => some ("md-" ++ type.className ++ "-marker")
  | .content => some ("md-" ++ type.className ++ "-content")
  | .metadata name => some ("md-" ++ type.className ++ "-" ++ name)
  | .plain => none

/-- A part around its inner markup. -/
def wrapPart (type : TokenType) (role : Role) (inner : Text) : Text :=
  match partClass? type role with
  | none => inner
  | some classes => tagged classes inner

mutual

def renderNode : Node → Text
  | .text source => escape source.text
  | .token t children =>
      let nested := renderNodes children
      tagged (tokenClasses t.kind) (t.parts.flatMap fun p =>
        wrapPart t.type p.role
          (if p.role = .content && !children.isEmpty then nested else escape (t.partText p)))

def renderNodes : List Node → Text
  | [] => []
  | n :: later => renderNode n ++ renderNodes later

end

/-- The markup of a text, which is its own markup if it was rendered before. -/
def renderWith (grammar : List Pattern) (text : Text) : Except HighlightError Text :=
  if isRendered text then .ok text else (tokenizeWith grammar text).map renderNodes

def render (text : Text) : Except HighlightError Text := renderWith Grammar.markdown text

end MarkdownHighlight.Markup
