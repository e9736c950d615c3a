import MarkdownHighlight.Text.Basic

/-!
The constructs of Markdown that are highlighted. A token covers a stretch of
the source and is cut into parts: markers, one content part, named metadata and
plain filler. Source text that no construct covers is a text node, which has
neither parts nor children.
-/

namespace MarkdownHighlight

inductive TokenType where
  | header
  | bold
  | italic
  | codeInline
  | codeBlock
  | link
  | list
  | blockquote
  | strikethrough
  | table
  | text
  deriving DecidableEq, Repr

namespace TokenType

def all : List TokenType :=
  [.header, .bold, .italic, .codeInline, .codeBlock, .link, .list, .blockquote,
   .strikethrough, .table, .text]

def name : TokenType → String
  | .header => "Header"
  | .bold => "Bold"
  | .italic => "Italic"
  | .codeInline => "CodeInline"
  | .codeBlock => "CodeBlock"
  | .link => "Link"
  | .list => "List"
  | .blockquote => "Blockquote"
  | .strikethrough => "Strikethrough"
  | .table => "Table"
  | .text => "Text"

/-- The name inside a markup class. -/
def className : TokenType → String
  | .header => "header"
  | .bold => "bold"
  | .italic => "italic"
  | .codeInline => "code-inline"
  | .codeBlock => "code-block"
  | .link => "link"
  | .list => "list"
  | .blockquote => "blockquote"
  | .strikethrough => "strikethrough"
  | .table => "table"
  | .text => "text"

/-- Code hides what stands inside it from every other construct. -/
def isOpaque : TokenType → Bool
  | .codeInline | .codeBlock => true
  | _ => false

end TokenType

inductive LinkTarget where
  | url (address : Text)
  | reference (label : Text)
  deriving DecidableEq, Repr

inductive TokenKind where
  | header (level : Nat) (content : Text)
  | bold (content delimiter : Text)
  | italic (content delimiter : Text)
  | strikethrough (content delimiter : Text)
  | codeBlock (language : Option Text) (content : Text)
  | codeInline (content : Text)
  | link (text : Text) (target : LinkTarget) (image : Bool)
  | list (indentDepth : Nat) (marker content : Text)
  | blockquote (level indent : Nat) (content : Text)
  | table (content : Text)
  deriving DecidableEq, Repr

namespace TokenKind

def type : TokenKind → TokenType
  | .header .. => .header
  | .bold .. => .bold
  | .italic .. => .italic
  | .strikethrough .. => .strikethrough
  | .codeBlock .. => .codeBlock
  | .codeInline .. => .codeInline
  | .link .. => .link
  | .list .. => .list
  | .blockquote .. => .blockquote
  | .table .. => .table

/-- The rank of a header, the depth of a quotation or of a list item. -/
def level? : TokenKind → Option Nat
  | .header level _ => some level
  | .blockquote level _ _ => some level
  | .list depth _ _ => some depth
  | _ => none

end TokenKind

/-- What a part of a token is for. -/
inductive Role where
  | marker
  | content
  | metadata (name : String)
  | plain
  deriving DecidableEq, Repr

structure Part where
  role : Role
  span : Span
  deriving DecidableEq, Repr

structure Token where
  kind : TokenKind
  source : Excerpt
  parts : List Part
  deriving DecidableEq, Repr

namespace Token

def type (t : Token) : TokenType := t.kind.type

def span (t : Token) : Span := t.source.span

def partText (t : Token) (p : Part) : Text := (t.source.slice p.span).text

/-- Where nested tokens live. -/
def contentSpan? (t : Token) : Option Span := (t.parts.find? (·.role == .content)).map (·.span)

def content? (t : Token) : Option Excerpt := t.contentSpan?.map t.source.slice

end Token

/-- The tree of a document: plain source text, and tokens around what they
contain. -/
inductive Node where
  | text (source : Excerpt)
  | token (token : Token) (children : List Node)
  deriving Repr

namespace Node

def source : Node → Excerpt
  | .text source => source
  | .token t _ => t.source

def span (n : Node) : Span := n.source.span

def type : Node → TokenType
  | .text _ => .text
  | .token t _ => t.type

mutual

/-- How many nodes there are, the node itself counted. -/
def count : Node → Nat
  | .text _ => 1
  | .token _ children => 1 + countAll children

def countAll : List Node → Nat
  | [] => 0
  | n :: later => count n + countAll later

end

end Node

end MarkdownHighlight
