import MarkdownHighlight.Document.Viewport
import MarkdownHighlight.Markup.Render
import MarkdownHighlight.Terminal.Paint

/-!
Whole documents, as markup and as a terminal preview. Lines outside the
selected slice are kept but not highlighted, so every line of the document
reaches the output.
-/

namespace MarkdownHighlight

/-- Lines before a slice, each with its newline. -/
def linesBefore (form : Text → Text) (lines : List Text) : Text :=
  lines.flatMap fun line => form line ++ [Text.newline]

/-- Lines after a slice, each after a newline. -/
def linesAfter (form : Text → Text) (lines : List Text) : Text :=
  lines.flatMap fun line => Text.newline :: form line

namespace Markup

def renderDocumentWith (grammar : List Pattern) (n : Narrowing) (text : Text)
    (viewport? : Option Viewport) : Except HighlightError Text :=
  if isRendered text then renderWith grammar text
  else
    let lines := text.lines
    let slice := n.select lines viewport?
    if slice.isFull lines.length then renderWith grammar text
    else do
      let middle ← renderWith grammar slice.content
      return linesBefore escape (lines.take slice.start) ++ middle
        ++ linesAfter escape (lines.drop (slice.stop + 1))

def renderDocument (n : Narrowing) (text : Text) (viewport? : Option Viewport) :
    Except HighlightError Text :=
  renderDocumentWith Grammar.markdown n text viewport?

end Markup

namespace Terminal

def paintDocument (n : Narrowing) (text : Text) (viewport? : Option Viewport) :
    Except HighlightError Text :=
  let lines := text.lines
  let slice := n.select lines viewport?
  if slice.isFull lines.length then paint text
  else do
    let middle ← paint slice.content
    return linesBefore id (lines.take slice.start) ++ middle
      ++ linesAfter id (lines.drop (slice.stop + 1))

end Terminal

end MarkdownHighlight
