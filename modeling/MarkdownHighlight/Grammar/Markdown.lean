import MarkdownHighlight.Grammar.Pattern

/-!
The grammar: one pattern for each construct, in the order in which they claim
text. Code comes first, so nothing is recognised inside it; bold comes before
italic, because a double marker would otherwise read as two single ones. Each
expression is given twice, as it is written and as it is matched.
-/

namespace MarkdownHighlight.Grammar

open Regex

def notNewline : CharSet := .complement (.single '\n')

def spaceOrTab : CharSet := .oneOf " \t"

/-- Filler that may end a line. -/
def lineFiller : CharSet := .oneOf " \t\r"

/-- Neither a newline nor a carriage return. -/
def inLine : CharSet := .complement (.oneOf "\n\r")

/-- Not blank and not the given character: what may stand at an inner edge. -/
def edge (marker : Char) : CharSet := .complement (.ofItems [.blank, .single marker])

/-- Something, starting and ending with `ends`, as short as possible. -/
def between (ends middle : CharSet) : Regex :=
  .seq (.one ends) (optional true (.seq (.star false (.one middle)) (.one ends)))

def wordEdge : Regex := .assert (.wordBoundary .word)

def codeBlock : Pattern where
  name := "code_block"
  type := .codeBlock
  source := "(?m)^(```)([^\\s`]*)([^\\n]*\\n)(?:((?s:.*?))\\n)?(```)[ \\t\\r]*$"
  regex := concat [.assert .lineStart, .group 1 (literal "```"),
    .group 2 (.star true (.one (.complement (.ofItems [.blank, .single '`'])))),
    .group 3 (.seq (.star true (.one notNewline)) (char '\n')),
    optional true (.seq (.group 4 (.star false (.one .any))) (char '\n')),
    .group 5 (literal "```"), .star true (.one lineFiller), .assert .lineEnd]
  extraction := .codeBlock

def codeInline : Pattern where
  name := "code_inline"
  type := .codeInline
  source := "(`)([^`\\n]+)(`)"
  regex := concat [.group 1 (char '`'), .group 2 (.plus true (.one (.complement (.oneOf "`\n")))),
    .group 3 (char '`')]
  extraction := .codeInline

def header : Pattern where
  name := "header"
  type := .header
  source := "(?m)^(#\x7b1,6\x7d)[ \\t]+([^\\n]*?)[ \\t\\r]*$"
  regex := concat [.assert .lineStart, .group 1 (repeated true (char '#') 1 (some 6)),
    .plus true (.one spaceOrTab), .group 2 (.star false (.one notNewline)),
    .star true (.one lineFiller), .assert .lineEnd]
  extraction := .header

def bold : Pattern where
  name := "bold"
  type := .bold
  source := "(\\*\\*)([^\\s*](?:[^\\n]*?[^\\s*])?)(\\*\\*)|\\b(__)([^\\s_](?:[^\\n]*?[^\\s_])?)(__)\\b"
  regex := .alt
    (concat [.group 1 (literal "**"), .group 2 (between (edge '*') notNewline),
      .group 3 (literal "**")])
    (concat [wordEdge, .group 4 (literal "__"), .group 5 (between (edge '_') notNewline),
      .group 6 (literal "__"), wordEdge])
  extraction := .bold

def italic : Pattern where
  name := "italic"
  type := .italic
  source := "(\\*)([^\\s*](?:[^*\\n]*?[^\\s*])?)(\\*)|\\b(_)([^\\s_](?:[^_\\n]*?[^\\s_])?)(_)\\b"
  regex := .alt
    (concat [.group 1 (char '*'), .group 2 (between (edge '*') (.complement (.oneOf "*\n"))),
      .group 3 (char '*')])
    (concat [wordEdge, .group 4 (char '_'),
      .group 5 (between (edge '_') (.complement (.oneOf "_\n"))), .group 6 (char '_'), wordEdge])
  extraction := .italic

def strikethrough : Pattern where
  name := "strikethrough"
  type := .strikethrough
  source := "(~~)([^\\s~](?:[^~\\n]*?[^\\s~])?)(~~)"
  regex := concat [.group 1 (literal "~~"),
    .group 2 (between (edge '~') (.complement (.oneOf "~\n"))), .group 3 (literal "~~")]
  extraction := .strikethrough

def link : Pattern where
  name := "link"
  type := .link
  source :=
    "(!?\\[)([^\\]\\n]*)(?:(\\]\\()([^)\\s]*(?:[ \\t]+\"[^\"\\n]*\")?)(\\))|(\\]\\[)([^\\]\\n]*)(\\]))"
  regex := concat [.group 1 (.seq (optional true (char '!')) (char '[')),
    .group 2 (.star true (.one (.complement (.oneOf "]\n")))),
    .alt
      (concat [.group 3 (literal "]("),
        .group 4 (.seq (.star true (.one (.complement (.ofItems [.single ')', .blank]))))
          (optional true (concat [.plus true (.one spaceOrTab), char '"',
            .star true (.one (.complement (.oneOf "\"\n"))), char '"']))),
        .group 5 (char ')')])
      (concat [.group 6 (literal "]["), .group 7 (.star true (.one (.complement (.oneOf "]\n")))),
        .group 8 (char ']')])]
  extraction := .link

def blockquote : Pattern where
  name := "blockquote"
  type := .blockquote
  source := "(?m)^([ \\t]*)((?:>[ \\t]?)+)([^\\n\\r]*)\\r?$"
  regex := concat [.assert .lineStart, .group 1 (.star true (.one spaceOrTab)),
    .group 2 (.plus true (.seq (char '>') (optional true (.one spaceOrTab)))),
    .group 3 (.star true (.one inLine)), optional true (char '\r'), .assert .lineEnd]
  extraction := .blockquote

def list : Pattern where
  name := "list"
  type := .list
  source := "(?m)^([ \\t]*)([-*+]|\\d\x7b1,9\x7d[.)])([ \\t]+)([^\\n\\r]*)\\r?$"
  regex := concat [.assert .lineStart, .group 1 (.star true (.one spaceOrTab)),
    .group 2 (.alt (.one (.oneOf "-*+"))
      (.seq (repeated true (.one .digit) 1 (some 9)) (.one (.oneOf ".)")))),
    .group 3 (.plus true (.one spaceOrTab)), .group 4 (.star true (.one inLine)),
    optional true (char '\r'), .assert .lineEnd]
  extraction := .list

def table : Pattern where
  name := "table"
  type := .table
  source := "(?m)^([ \\t]*)(\\|)([^\\n\\r]*)(\\|)[ \\t\\r]*$"
  regex := concat [.assert .lineStart, .group 1 (.star true (.one spaceOrTab)),
    .group 2 (char '|'), .group 3 (.star true (.one inLine)), .group 4 (char '|'),
    .star true (.one lineFiller), .assert .lineEnd]
  extraction := .table

/-- All patterns in the order in which they claim text. -/
def markdown : List Pattern :=
  [codeBlock, codeInline, header, bold, italic, strikethrough, link, blockquote, list, table]

/-- The pattern of a token type; plain text has none. -/
def pattern? (type : TokenType) : Option Pattern := markdown.find? (·.type == type)

end MarkdownHighlight.Grammar
