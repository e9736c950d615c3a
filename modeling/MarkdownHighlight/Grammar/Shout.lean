import MarkdownHighlight.Grammar.Pattern

/-!
A construct beyond the grammar: words between exclamation marks, struck
through. Its expression may be replaced; the body is then the first of the
groups 1 and 2 that took part.
-/

namespace MarkdownHighlight

def Extraction.shout : Extraction := fun c => do
  let name := "shout"
  let whole ← c.require name 0
  let body ← match c.firstOf? [1, 2] with
    | some body => .ok body
    | none => c.require name 1
  let parts ← Part.tile name whole.span
    [⟨.marker, body.start⟩, ⟨.content, body.stop⟩] .marker
  return ⟨.strikethrough body.text ['!'], whole, parts⟩

namespace Grammar

def shoutSource : String := "!(\\w+)!"

def shout (type : TokenType) (source : String) : Except HighlightError Pattern :=
  Pattern.compile "shout" type source .shout

end Grammar

end MarkdownHighlight
